import ScriptGate.Table

/-! Gray lists: names that are allowed, names that are denied, and a default for the
rest.

A list is a table of the listings of names, so no name can be both allowed and denied.
A name that is not listed is allowed unless the list is strict. -/
namespace ScriptGate

inductive Listing where
  | allowed | denied
  deriving DecidableEq, Repr

structure GrayList where
  listed : Table Listing := {}
  strict : Bool := false
  deriving DecidableEq, Repr

namespace GrayList

def empty (strict : Bool) : GrayList := { strict }

/-- How a name is listed, if it is. -/
def listing (g : GrayList) (name : String) : Option Listing :=
  g.listed.get? name

/-- List a name, in place of how it was listed before. -/
def put (g : GrayList) (name : String) (as : Listing) : GrayList :=
  { g with listed := g.listed.put name as }

def allow (g : GrayList) (name : String) : GrayList := g.put name .allowed

def deny (g : GrayList) (name : String) : GrayList := g.put name .denied

def denyAll (g : GrayList) (names : List String) : GrayList := names.foldl deny g

/-- Only names that are not listed notice. -/
def setStrict (g : GrayList) (strict : Bool) : GrayList := { g with strict }

def allows (g : GrayList) (name : String) : Bool :=
  match g.listing name with
  | some .allowed => true
  | some .denied => false
  | none => !g.strict

def isDenied (g : GrayList) (name : String) : Bool := g.listing name == some .denied

def isAllowed (g : GrayList) (name : String) : Bool := g.listing name == some .allowed

def deniedCount (g : GrayList) : Nat := g.listed.entries.countP fun entry => entry.2 == .denied

def allowedCount (g : GrayList) : Nat := g.listed.entries.countP fun entry => entry.2 == .allowed

end GrayList

end ScriptGate
