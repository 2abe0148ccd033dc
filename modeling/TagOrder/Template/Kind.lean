import TagOrder.Template.MemberTable
import TagOrder.Template.NoteTable
import TagOrder.Text.Slice

/-!
# Kinds of items

A field of a template starts at a key and may go on to what is known about it: its kind, the members
of that kind, and what is known about those in turn. Everything that a field can arrive at is of one
of the kinds listed here. A kind has members of its own and those of the kinds it builds on.

The kinds, their members and notes, and their sizes and flags are those of release 3.11 of the
reference interpreter, on a machine with words of 64 bits. Another release lists other ones.
-/

namespace TagOrder

/-- A kind of items that a field can arrive at. -/
inductive Kind where
  | text
  | object
  /-- Kinds themselves. -/
  | type
  | tuple
  | number
  | truth
  | nothing
  /-- Methods of an item. -/
  | method
  /-- Methods of an item that stand for an operator. -/
  | wrapper
  /-- Methods taken from a kind. -/
  | looseMethod
  /-- Operator methods taken from a kind. -/
  | looseWrapper
  /-- Methods of a kind itself, as the kind keeps them. -/
  | looseKindMethod
  /-- Computed members taken from a kind. -/
  | property
  /-- Stored members taken from a kind. -/
  | slot
  /-- The members of a kind, by name. -/
  | members
  /-- What an item keeps by name, beside the members of its kind. -/
  | dictionary
  /-- Methods that need neither an item nor a kind, as a kind keeps them. -/
  | free
  /-- Kinds with an index. -/
  | generic
  deriving DecidableEq, Repr

/-- How a member gives an item when it is asked for. -/
inductive MemberSort where
  | wrapper
  | method
  /-- A method of the kind and not of its items. -/
  | kindMethod
  /-- The method that makes items of the kind. -/
  | maker
  /-- A method that needs neither an item nor the kind. -/
  | free
  | property
  | slot
  /-- The same for all items of the kind. -/
  | constant
  deriving DecidableEq, Repr

/-- A member of a kind. -/
structure Member where
  owner : Kind
  sort : MemberSort
  name : String
  deriving DecidableEq, Repr

namespace Kind

/-- The name of a kind, after that of its home unless all kinds are at home there. -/
def name : Kind -> String
  | text => "str"
  | object => "object"
  | type => "type"
  | tuple => "tuple"
  | number => "int"
  | truth => "bool"
  | nothing => "NoneType"
  | method => "builtin_function_or_method"
  | wrapper => "method-wrapper"
  | looseMethod => "method_descriptor"
  | looseWrapper => "wrapper_descriptor"
  | looseKindMethod => "classmethod_descriptor"
  | property => "getset_descriptor"
  | slot => "member_descriptor"
  | members => "mappingproxy"
  | dictionary => "dict"
  | free => "staticmethod"
  | generic => "types.GenericAlias"

/-- The name of a kind by itself. -/
def shortName (kind : Kind) : String := if kind = generic then "GenericAlias" else kind.name

/-- Where a kind is at home. -/
def home (kind : Kind) : String := if kind = generic then "types" else "builtins"

/-- The lines of the member table that belong to a kind. -/
def memberLines : Kind -> List String
  | text => MemberTable.text
  | object => MemberTable.object
  | type => MemberTable.type
  | tuple => MemberTable.tuple
  | number => MemberTable.number
  | truth => MemberTable.truth
  | nothing => MemberTable.nothing
  | method => MemberTable.method
  | wrapper => MemberTable.wrapper
  | looseMethod => MemberTable.looseMethod
  | looseWrapper => MemberTable.looseWrapper
  | looseKindMethod => MemberTable.looseKindMethod
  | property => MemberTable.property
  | slot => MemberTable.slot
  | members => MemberTable.members
  | dictionary => MemberTable.dictionary
  | free => MemberTable.free
  | generic => MemberTable.generic

/-- The kind that a kind builds on. -/
def base? : Kind -> Option Kind
  | object => none
  | truth => some number
  | _ => some object

/-- The kinds whose members the items of a kind have, nearest first. -/
def ancestry : Kind -> List Kind
  | object => [object]
  | truth => [truth, number, object]
  | kind => [kind, object]

/-- The notes on the members of a kind that are no wrappers. -/
def notes : Kind -> List Note
  | text => NoteTable.text
  | object => NoteTable.object
  | type => NoteTable.type
  | tuple => NoteTable.tuple
  | number => NoteTable.number
  | members => NoteTable.members
  | dictionary => NoteTable.dictionary
  | generic => NoteTable.generic
  | _ => []

/-- The note on a kind. -/
def note? (kind : Kind) : Option Note := NoteTable.kinds.find? (·.name = kind.name)

/-- The size of an item of a kind in memory. -/
def itemSize : Kind -> Nat
  | text => 80
  | object | nothing => 16
  | type => 904
  | tuple | number | members => 24
  | truth | wrapper | free => 32
  | property | slot | dictionary => 48
  | method | looseMethod | looseWrapper | looseKindMethod => 56
  | generic => 64

/-- The size in memory of each part of an item of a kind, where items have parts. -/
def partSize : Kind -> Nat
  | type => 40
  | tuple => 8
  | number | truth => 4
  | _ => 0

/-- The features of a kind, one bit for each. -/
def flags : Kind -> Nat
  | text => 273159424
  | object => 529664
  | type => 2148031744
  | tuple => 71849248
  | number => 21501184
  | truth => 21500160
  | nothing => 528640
  | method => 547200
  | looseMethod => 678272
  | looseWrapper => 676224
  | wrapper | looseKindMethod | property | slot => 545152
  | members => 545088
  | dictionary => 541611328
  | free => 546048
  | generic => 548096

/-- Where the items of a kind keep members of their own. -/
def storeOffset : Kind -> Nat
  | type => 264
  | free => 24
  | _ => 0

/-- Where the items of a kind keep who watches them. -/
def watchOffset : Kind -> Nat
  | type => 368
  | method | generic => 40
  | _ => 0

end Kind

namespace MemberSort

/-- The sort that a line of the member table starts with. -/
def ofWord (word : String) : MemberSort :=
  match word with
  | "wrapper" => wrapper
  | "method" => method
  | "kindMethod" => kindMethod
  | "maker" => maker
  | "free" => free
  | "property" => property
  | "slot" => slot
  | _ => constant

end MemberSort

/-- The members that a line of the member table lists. -/
def Member.ofLine (owner : Kind) (line : String) : List Member :=
  match Text.splitAt ' ' line.toList with
  | [] => []
  | sort :: names => names.map fun name =>
      ⟨owner, MemberSort.ofWord (String.ofList sort), String.ofList name⟩

namespace Kind

/-- The members that a kind has of its own. -/
def own (kind : Kind) : List Member := kind.memberLines.flatMap (Member.ofLine kind)

/-- The member of the given name that items of a kind have. -/
def member? (kind : Kind) (name : String) : Option Member :=
  kind.ancestry.findSome? fun ancestor => ancestor.own.find? (·.name = name)

/-- Whether a kind can be given an index. -/
def takesIndex (kind : Kind) : Bool :=
  kind = type || (kind.member? "__class_getitem__").isSome

end Kind

/-- The description of a note, its lines with breaks between them. -/
def Note.descriptionText (note : Note) : Text := (String.intercalate "\n" note.description).toList

namespace Member

/-- The note on a member. -/
def note? (member : Member) : Option Note :=
  let notes := match member.sort with
    | .wrapper | .maker => NoteTable.wrappers
    | _ => member.owner.notes
  notes.find? (·.name = member.name)

/-- The name of a member after that of its kind. -/
def fullName (member : Member) : String := member.owner.shortName ++ "." ++ member.name

end Member

end TagOrder
