import ScriptGate.Config.Format
import ScriptGate.Error

/-! Where a configuration comes from: a text, or a file of a directory.

A directory is looked at through a snapshot of its files, each under its path, so
what a path leads to is a function of the snapshot (`Snapshot.read`). -/
namespace ScriptGate

namespace Config

/-- The configuration a text describes, if it is a valid one. -/
def ofText (text : String) : Except Error Config :=
  match (Yaml.Value.ofText? text).bind Format.yaml.config with
  | none => .error .invalidYaml
  | some c =>
    match c.validate with
    | .error violation => .error (.config violation)
    | .ok () => .ok c

/-- The configuration in what was read from a path. -/
def ofFile (path : String) (contents : Except ReadFault ByteArray) : Except Error Config :=
  match contents with
  | .error fault => .error (.unreadable path fault)
  | .ok bytes =>
    match String.fromUTF8? bytes with
    | none => .error (.unreadable path .notUtf8)
    | some text => ofText text

end Config

/-- The files of a directory and what they contain. -/
structure Snapshot where
  files : List (String × ByteArray)

namespace Snapshot

/-- The names on the way along a path. -/
def steps (path : String) : List String := path.splitOn "/"

/-- A file or a directory of the snapshot. -/
inductive Entry where
  | file (contents : ByteArray)
  /-- The files under a directory, by the names that lead to them. -/
  | directory (files : List (List String × ByteArray))

/-- What has this name among files. -/
def child (name : String) (files : List (List String × ByteArray)) : Option Entry :=
  match files.find? fun f => f.1 == [name] with
  | some f => some (.file f.2)
  | none =>
    let inside := files.filterMap fun f =>
      match f.1 with
      | first :: rest => if first == name && !rest.isEmpty then some (rest, f.2) else none
      | [] => none
    if inside.isEmpty then none else some (.directory inside)

/-- The longest name in a directory, in bytes. -/
def maxName : Nat := 255

/-- The longest path, in bytes. -/
def maxPath : Nat := 4095

/-- What the steps of a path lead to, from a directory with those around it. A step from
a file leads nowhere, even one to itself; above the snapshot nothing is known but that
there are directories. -/
def walk : (around : List (List (List String × ByteArray))) → Entry → List String →
    Except ReadFault Entry
  | _, e, [] => .ok e
  | _, .file _, _ :: _ => .error .notDirectory
  | around, .directory files, step :: rest =>
    if step == "" || step == "." then walk around (.directory files) rest
    else if step == ".." then walk around.tail (.directory (around.headD [])) rest
    else if maxName < step.utf8ByteSize then .error .nameTooLong
    else
      match child step files with
      | some e => walk (files :: around) e rest
      | none => .error .notFound

/-- The contents of the file at a path. -/
def read (s : Snapshot) (path : String) : Except ReadFault ByteArray :=
  if path.contains '\x00' then .error .nulInName
  else if path.isEmpty then .error .notFound
  else if maxPath < path.utf8ByteSize then .error .nameTooLong
  else
    match walk [] (.directory (s.files.map fun f => (steps f.1, f.2))) (steps path) with
    | .ok (.file contents) => .ok contents
    | .ok (.directory _) => .error .isDirectory
    | .error fault => .error fault

end Snapshot

end ScriptGate
