import TorChat.Library.Decimal
import TorChat.Library.Fields
import TorChat.Library.FileTree
import TorChat.Library.Machine
import TorChat.Util.FileTask

namespace TorChat

open Library (Bytes Entry FileTree Machine afterLast fields split splitOn_of_notMem)

def signAndDigits : List Char → Bool × List Char
  | '-' :: digits => (true, digits)
  | '+' :: digits => (false, digits)
  | digits => (false, digits)

def intOfDigits (negative : Bool) (digits : List Char) : Option Int :=
  let n : Int := Library.Decimal.value digits
  let value := if negative then -n else n
  if Library.Decimal.isNumber digits ∧ -2 ^ 31 ≤ value ∧ value < 2 ^ 31 then some value else none

def parseInt (s : String) : Option Int :=
  let (negative, digits) := signAndDigits s.toList
  intOfDigits negative digits

namespace FileUtil

open FileTask (toInt)

-- the folder BIN_FILE_PATH and what is below it
abbrev BinFolder := FileTree String Bytes

-- the names that a path goes down through; no extension holds a dot
def names (path : String) : List String :=
  ((path.toList.splitOn '/').filter (fun name => !name.isEmpty)).map String.ofList

section Names

-- without a dot substring(-1) is an exception
def getFileExtension (sourceFilePath : String) : Option String :=
  if '.' ∈ sourceFilePath.toList then
    some (String.ofList (afterLast '.' sourceFilePath.toList))
  else none

def generateTargetFile (time fileExtension : String) : String :=
  fileExtension ++ "_" ++ time ++ "." ++ fileExtension

def getTargetFilePath (time binName : String) : Option String :=
  match split '_' binName with
  | fileExtension :: _ => some (generateTargetFile time fileExtension)
  | [] => none

def binFileName (fileExtension currentNum : String) : String :=
  fileExtension ++ "_" ++ currentNum ++ ".bin"

def fileNum (fileName : String) : Option Int :=
  match split '_' fileName with
  | _ :: lastSplit :: _ =>
      match split '.' lastSplit with
      | num :: _ => parseInt num
      | [] => none
  | _ => none

-- list.get(0) of an empty list is an exception
def getCurrentNum : List Int → Option String
  | [] => none
  | first :: rest =>
      some (toString (toInt (rest.foldl (fun max n => if n > max then n else max) first + 1)))

end Names

section Folder

-- the names that the file system can hold
variable (accepts : String → Bool)

def mkdir (folder : BinFolder) (path : List String) : BinFolder :=
  if path.getLast?.all accepts then (folder.insert path .folder).getD folder else folder

def mkdirs (folder : BinFolder) (path : List String) : BinFolder := path.inits.foldl (mkdir accepts) folder

def listFiles (folder : BinFolder) (path : List String) : Option (List String) :=
  if folder.isFolder path then some (folder.children path) else none

-- nothing happens to a file that is there; a folder that is missing is an exception
def createNewFileName (folder : BinFolder) (path : List String) : Option BinFolder :=
  if (folder.node path).isSome then some folder
  else if path.getLast?.all accepts then folder.insert path (.file []) else none

def createBinFileFolder (folder : BinFolder) : BinFolder := mkdirs accepts folder []

def createExtensionFolder (folder : BinFolder) (fileExtension : String) : BinFolder :=
  mkdirs accepts folder (names fileExtension)

def traverseBinFileFolder (folder : BinFolder) (files : List String) (fileExtension : String) :
    Option String :=
  files.find? (fun name => folder.isFolder [name] && decide (name = fileExtension))

def createIn (folder : BinFolder) (fileExtension newBinFileName : String) :
    BinFolder × Option String :=
  match createNewFileName accepts folder (names fileExtension ++ names newBinFileName) with
  | none => (folder, none)
  | some created => (created, some newBinFileName)

def generateBinFile (folder : BinFolder) (fileExtension : String) (targetFolder : List String) :
    BinFolder × Option String :=
  match listFiles folder targetFolder with
  | none => (folder, none)
  | some files =>
      if files.length = 0 then createIn accepts folder fileExtension (binFileName fileExtension "1")
      else
        match (files.mapM fileNum).bind getCurrentNum with
        | none => (folder, none)
        | some currentNum =>
            createIn accepts folder fileExtension (binFileName fileExtension currentNum)

-- a null folder name is appended as the text null; none is an exception
def createBinFile (folder : BinFolder) (sourceFilePath : String) : BinFolder × Option String :=
  match getFileExtension sourceFilePath with
  | none => (folder, none)
  | some fileExtension =>
      let folder := createExtensionFolder accepts (createBinFileFolder accepts folder) fileExtension
      match listFiles folder [] with
      | none => (folder, none)
      | some files =>
          let targetFolderName := traverseBinFileFolder folder files fileExtension
          generateBinFile accepts folder fileExtension (names (targetFolderName.getD "null"))

def binMachine : Machine BinFolder String where
  step folder sourceFilePath := (createBinFile accepts folder sourceFilePath).1

def emptyFolder : BinFolder where
  entries := []
  nodup := List.nodup_nil
  closed := fun _ he => absurd he List.not_mem_nil

end Folder

end FileUtil

end TorChat
