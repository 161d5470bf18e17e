import TracePlayer.Files.Failure
import TracePlayer.Named

/-
  This file defines a tree of files with a working directory.
  The directories are the root, those on the way to the
  working directory and those on the way to a file.

  Key definitions include:
    * `Place`
    * `FileStore`, `FileStore.inHome`
    * `FileStore.parts`, `follow`, `locate`
    * `FileStore.read`, `create`, `append`
-/

namespace TracePlayer

------------------------------------------------------------
-- Stores
------------------------------------------------------------

/- A place: the names on the way from the root. -/
abbrev Place :=
  List String

/- The path of a place, without the root. -/
def Place.path (place : Place) : String :=
  String.intercalate "/" place

/-
  Files by the paths of their places, and the place of the
  working directory.
-/
structure FileStore where
  home : Place
  files : Named ByteArray

namespace FileStore

def empty : FileStore :=
  ⟨[], Named.empty⟩

instance : Inhabited FileStore :=
  ⟨empty⟩

/- Files by their paths from the working directory. -/
def inHome
    (home : Place)
    (files : List (String × ByteArray)) : FileStore :=
  ⟨home, Named.ofList (files.map fun (name, bytes) =>
    (Place.path (home ++ name.splitOn "/"), bytes))⟩

------------------------------------------------------------
-- Paths
------------------------------------------------------------

def isFile
    (store : FileStore)
    (place : Place) : Bool :=
  store.files.contains place.path

/- Whether a place is a directory. -/
def isDirectory
    (store : FileStore)
    (place : Place) : Bool :=
  place.isPrefixOf store.home ||
    store.files.names.any fun name =>
      (place.path ++ "/").isPrefixOf name

/- The greatest number of bytes in a name. -/
def nameLimit : Nat :=
  255

/- The greatest number of bytes in a path. -/
def pathLimit : Nat :=
  4095

/-
  Go one part of a path further, from a directory. Two dots
  lead up, but not beyond the root.
-/
def enter
    (store : FileStore)
    (place : Place)
    (part : String) : Except FileFailure Place :=
  if store.isFile place then .error .notDirectory
  else if store.isDirectory place = false then .error .absent
  else if part = "" ∨ part = "." then .ok place
  else if part = ".." then .ok place.dropLast
  else if nameLimit < part.utf8ByteSize then
    .error .nameTooLong
  else .ok (place ++ [part])

/-
  The parts of a path that can be followed. The empty path
  leads nowhere.
-/
def parts
    (path : String) : Except FileFailure (List String) :=
  if path.toList.contains '\x00' then .error .badName
  else if pathLimit < path.utf8ByteSize then
    .error .nameTooLong
  else if path = "" then .error .absent
  else .ok (path.splitOn "/")

/-
  The parts on the way to the directory that the last name
  is in. The slashes after the last name do not count.
-/
def outerParts (parts : List String) : List String :=
  (parts.reverse.dropWhile (· = "")).tail.reverse

/- Follow parts from a place. -/
def follow
    (store : FileStore)
    (start : Place)
    (parts : List String) : Except FileFailure Place :=
  parts.foldlM store.enter start

/- Where a path starts: the root or the working directory. -/
def start
    (store : FileStore)
    (path : String) : Place :=
  if path.startsWith "/" then [] else store.home

/- The place that a path leads to. -/
def locate
    (store : FileStore)
    (path : String) : Except FileFailure Place :=
  (parts path).bind (store.follow (store.start path))

------------------------------------------------------------
-- Content
------------------------------------------------------------

/- The bytes of a file. -/
def content
    (store : FileStore)
    (path : String) : Except FileFailure ByteArray :=
  (store.locate path).bind fun place =>
    match store.files.get? place.path with
    | some bytes => .ok bytes
    | none =>
        if store.isDirectory place then .error .isDirectory
        else .error .absent

/- The text of a file. -/
def read
    (store : FileStore)
    (path : String) : Except FileFailure String :=
  (store.content path).bind fun bytes =>
    match String.fromUTF8? bytes with
    | some text => .ok text
    | none => .error .notText

/-
  The place at which a file can be written. A path that ends
  in a slash means a directory, whatever its last name is:
  only the way to the directory around it is followed.
-/
def target
    (store : FileStore)
    (path : String) : Except FileFailure Place :=
  if path.endsWith "/" then
    (parts path).bind fun parts =>
      (store.follow (store.start path)
        (outerParts parts ++ [""])).bind fun _ =>
          .error .isDirectory
  else
    (store.locate path).bind fun place =>
      if store.isDirectory place then .error .isDirectory
      else .ok place

/- Make an empty file, or empty one that is there. -/
def create
    (store : FileStore)
    (path : String) : Except FileFailure FileStore :=
  (store.target path).map fun place =>
    { store with
      files := store.files.insert place.path
        ByteArray.empty }

/- Write text after the content of a file. -/
def append
    (store : FileStore)
    (path text : String) : FileStore :=
  match store.target path, store.content path with
  | .ok place, .ok bytes =>
      { store with
        files := store.files.insert place.path
          (bytes ++ text.toUTF8) }
  | _, _ => store

end FileStore

end TracePlayer
