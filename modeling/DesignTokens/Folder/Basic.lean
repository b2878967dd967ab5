import DesignTokens.Error
import DesignTokens.Folder.Name
import DesignTokens.Table

/-!
A folder of files, with the folders in it and around it.  Writing a file makes the
folders on the way to it.
-/

namespace DesignTokens

structure Folder where
  files : Entries Place ByteArray
  folders : List Place

namespace Folder

def empty : Folder :=
  ⟨[], []⟩

def emptyFile : Place :=
  ⟨.top, ["dev", "null"]⟩

def standardFolders : List Place :=
  [⟨.top, ["dev"]⟩, ⟨.top, ["tmp"]⟩]

def fileAt? (folder : Folder) (place : Place) : Option ByteArray :=
  if place = emptyFile then some ByteArray.empty else folder.files.find? place

def isFile (folder : Folder) (place : Place) : Bool :=
  (folder.fileAt? place).isSome

def isFolder (folder : Folder) (place : Place) : Bool :=
  place.parts.isEmpty || standardFolders.contains place || folder.folders.contains place ||
    folder.files.any fun (other, _) => place.surrounds other

def partLimit : Nat := 255

def nameLimit : Nat := 4095

def wayFault? (folder : Folder) (place : Place) : List String → Option FileFault
  | [] => none
  | part :: parts =>
      if !folder.isFolder place then some (if folder.isFile place then .notFolder else .missing)
      else if partLimit < part.utf8ByteSize then some .nameTooLong
      else folder.wayFault? (place.enter part) parts

def nameFault? (folder : Folder) (name : FileName) : Option FileFault :=
  if name.text.toList.contains (Char.ofNat 0) then some .nullByte
  else if nameLimit < name.text.utf8ByteSize then some .nameTooLong
  else folder.wayFault? name.start name.parts

def has (folder : Folder) (name : FileName) : Except FileFault Bool :=
  match folder.nameFault? name with
  | some .nameTooLong => .error .nameTooLong
  | some _ => .ok false
  | none => .ok (folder.isFolder name.place || folder.isFile name.place)

def read (folder : Folder) (name : FileName) : Except FileFault ByteArray :=
  match folder.nameFault? name, folder.fileAt? name.place with
  | some fault, _ => .error fault
  | none, some content => .ok content
  | none, none => .error (if folder.isFolder name.place then .isFolder else .missing)

def makeFolder (folder : Folder) (name : FileName) : Except FileFault Folder :=
  match folder.nameFault? name with
  | some fault => .error fault
  | none =>
      if folder.isFolder name.place || folder.isFile name.place then .error .exists
      else .ok { folder with folders := name.place :: folder.folders }

def orPresent (folder : Folder) (name : FileName) (fault : FileFault) :
    Option FileFault × Folder :=
  let present := (folder.nameFault? name).isNone && folder.isFolder name.place
  (if present then none else some fault, folder)

/-- Makes a folder and those on the way to it, unless they are there.  The number
bounds the parts of its name. -/
def makeFolders (folder : Folder) (name : FileName) : Nat → Option FileFault × Folder
  | 0 => (some .missing, folder)
  | count + 1 =>
      match folder.makeFolder name with
      | .ok folder => (none, folder)
      | .error .nullByte => (some .nullByte, folder)
      | .error .missing =>
          match folder.makeFolders name.parent count with
          | (some fault, folder) => (some fault, folder)
          | (none, folder) =>
              match folder.makeFolder name with
              | .ok folder => (none, folder)
              | .error .missing => (some .missing, folder)
              | .error fault => folder.orPresent name fault
      | .error fault => folder.orPresent name fault

def put (folder : Folder) (name : FileName) (content : ByteArray) : Except FileFault Folder :=
  match folder.nameFault? name with
  | some fault => .error fault
  | none =>
      if folder.isFolder name.place then .error .isFolder
      else if name.place = emptyFile then .ok folder
      else .ok { folder with files := folder.files.insert name.place content }

/-- Writes a file, which may replace another one.  Folders that were made stay, also
when the file cannot be written. -/
def write (folder : Folder) (name : FileName) (content : ByteArray) : Option FileFault × Folder :=
  match folder.makeFolders name.parent (name.parts.length + 1) with
  | (some fault, folder) => (some fault, folder)
  | (none, folder) =>
      match folder.put name content with
      | .ok folder => (none, folder)
      | .error fault => (some fault, folder)

def plainBreaks : List Char → List Char
  | [] => []
  | '\r' :: '\n' :: rest => '\n' :: plainBreaks rest
  | c :: rest => (if c == '\r' then '\n' else c) :: plainBreaks rest

def textOf (content : ByteArray) : Except Error String :=
  match String.fromUTF8? content with
  | some text => .ok (String.ofList (plainBreaks text.toList))
  | none => .error .encoding

end Folder

end DesignTokens
