import TagOrder.Template.Fault
import TagOrder.Text.Numeral

/-!
# Items

What a field of a template can arrive at from a key. An item has members, which are items again, and
some items can be indexed. A member that only its own item knows, such as the name of a kind, is
computed when it is asked for. An index on a kind, where the kind takes one, gives the kind with the
index; it is asked for a few members of its own and hands on what else is asked of it.
-/

namespace TagOrder

/-- What stands between the brackets behind an item. -/
inductive Index where
  | place (place : Nat)
  | name (name : Text)
  deriving DecidableEq, Repr

/-- What stands in a tuple. -/
inductive Part where
  | kind (kind : Kind)
  | index (index : Index)
  deriving DecidableEq, Repr

/-- Something that a field can arrive at. -/
inductive Item where
  | text (text : Text)
  | number (number : Nat)
  | truth (value : Bool)
  | nothing
  | kind (kind : Kind)
  /-- A kind with an index. -/
  | generic (origin : Kind) (index : Index)
  | tuple (parts : List Part)
  /-- A method of the item that holds it. -/
  | bound (member : Member) (holder : Item)
  /-- A member taken from a kind, without an item. -/
  | loose (member : Member)
  /-- A member that needs neither an item nor the kind, as the kind keeps it. -/
  | free (member : Member)
  /-- What an item keeps beside the members of its kind: nothing, for all that fields arrive at. -/
  | store
  /-- The members of a kind, by name. -/
  | members (kind : Kind)
  deriving DecidableEq, Repr

namespace Item

/-- The item of a string. -/
def ofString (string : String) : Item := .text string.toList

/-- The kind of an item. -/
def kindOf : Item -> Kind
  | text _ => .text
  | number _ => .number
  | truth _ => .truth
  | nothing => .nothing
  | kind _ => .type
  | generic _ _ => .generic
  | tuple _ => .tuple
  | bound member _ => if member.sort = .wrapper then .wrapper else .method
  | loose member =>
    match member.sort with
    | .wrapper => .looseWrapper
    | .property => .property
    | .slot => .slot
    | .kindMethod => .looseKindMethod
    | _ => .looseMethod
  | free _ => .free
  | store => .dictionary
  | members _ => .members

end Item

/-- How a kind is shown. -/
def Kind.shown (kind : Kind) : String := "<class '" ++ kind.name ++ "'>"

namespace Member

/-- How a member that an item holds is shown, given the name of the item's kind. The place in memory
stands for one that differs from run to run. -/
def boundShown (member : Member) (holder : String) : String :=
  let sort := if member.sort = .wrapper then "method-wrapper '" ++ member.name ++ "'"
    else "built-in method " ++ member.name
  "<" ++ sort ++ " of " ++ holder ++ " object at 0x7f0000000000>"

/-- How a member is shown that is taken from a kind. -/
def looseShown (member : Member) : String :=
  let sort := match member.sort with
    | .wrapper => "slot wrapper"
    | .property => "attribute"
    | .slot => "member"
    | _ => "method"
  "<" ++ sort ++ " '" ++ member.name ++ "' of '" ++ member.owner.name ++ "' objects>"

/-- How a member is shown that needs neither an item nor the kind, as the kind keeps it. -/
def freeShown (member : Member) : String :=
  "<staticmethod(" ++ member.boundShown Kind.type.name ++ ")>"

/-- What a kind keeps for a member of its own. -/
def kept (member : Member) : Item :=
  match member.sort with
  | .maker => .bound member (.kind member.owner)
  | .free => .free member
  | .constant =>
    match member.owner.note? with
    | some note => if member.name = "__doc__" then .text note.descriptionText else .nothing
    | none => .nothing
  | _ => .loose member

/-- A member as it is listed among the members of its kind. -/
def listed (member : Member) : Text :=
  let item := match member.kept with
    | .text text => quoted text
    | .nothing => "None".toList
    | .bound member holder => (member.boundShown holder.kindOf.name).toList
    | .free member => member.freeShown.toList
    | _ => member.looseShown.toList
  quoted member.name.toList ++ ": ".toList ++ item

end Member

/-- An index as it is shown. -/
def Index.shown : Index -> Text
  | place number => Nat.toDigits 10 number
  | name words => quoted words

/-- A part of a tuple as it is shown. -/
def Part.shown : Part -> Text
  | kind which => which.shown.toList
  | index key => key.shown

namespace Item

/-- What a part of a tuple is by itself. -/
def ofPart : Part -> Item
  | .kind which => kind which
  | .index (.place place) => number place
  | .index (.name name) => text name

/-- Texts with a comma and a blank between them. -/
def separated (texts : List Text) : Text := List.intercalate ", ".toList texts

/-- The members of a kind as a listing between braces. -/
def listing (kind : Kind) : Text :=
  '\x7b' :: separated (kind.own.map Member.listed) ++ ['\x7d']

/-- An item as it is shown in detail, a text between quotes. -/
def detailed : Item -> Text
  | text words => quoted words
  | number value => Nat.toDigits 10 value
  | nothing => "None".toList
  | truth value => (if value then "True" else "False").toList
  | kind which => which.shown.toList
  | generic origin index => origin.shortName.toList ++ '[' :: index.shown ++ [']']
  | tuple [only] => '(' :: only.shown ++ ",)".toList
  | tuple parts => '(' :: separated (parts.map Part.shown) ++ [')']
  | bound member holder => (member.boundShown holder.kindOf.name).toList
  | loose member => member.looseShown.toList
  | free member => member.freeShown.toList
  | store => ['\x7b', '\x7d']
  | members owner => "mappingproxy(".toList ++ listing owner ++ [')']

/-- An item as it is shown. -/
def shown : Item -> Text
  | text words => words
  | members owner => listing owner
  | item => item.detailed

/-- A description, if a note tells one. -/
def description (note? : Option Note) : Item :=
  match note? with
  | some note => if note.description = [] then nothing else text note.descriptionText
  | none => nothing

/-- The way something is called, if a note tells it. -/
def call (note? : Option Note) : Item :=
  match note? with
  | some note => if note.call = "" then nothing else ofString note.call
  | none => nothing

/-- A computed member of a kind. -/
def computedOfKind (kind : Kind) (name : String) : Except TemplateFault Item :=
  match name with
  | "__name__" | "__qualname__" => .ok (ofString kind.shortName)
  | "__module__" => .ok (ofString kind.home)
  | "__bases__" => .ok (tuple (kind.base?.toList.map Part.kind))
  | "__mro__" => .ok (tuple (kind.ancestry.map Part.kind))
  | "__base__" => .ok (kind.base?.elim nothing Item.kind)
  | "__dict__" => .ok (members kind)
  | "__doc__" =>
    match kind.note?, kind.own.find? (·.name = "__doc__") with
    | none, some member => .ok member.kept
    | note, _ => .ok (description note)
  | "__text_signature__" => .ok (call kind.note?)
  | "__basicsize__" => .ok (number kind.itemSize)
  | "__itemsize__" => .ok (number kind.partSize)
  | "__flags__" => .ok (number kind.flags)
  | "__dictoffset__" => .ok (number kind.storeOffset)
  | "__weakrefoffset__" => .ok (number kind.watchOffset)
  | "__abstractmethods__" => .error (.noAbstractMembers)
  | _ => .error (.noMemberOfKind kind name)

/-- The name of a method after that of the kind it belongs to, for an item that holds it. -/
def boundName (member : Member) (holder : Item) : String :=
  match member.sort, holder with
  | .wrapper, _ => member.fullName
  | _, kind which => which.shortName ++ "." ++ member.name
  | _, item => item.kindOf.shortName ++ "." ++ member.name

/-- A computed member of a method that an item holds. -/
def computedOfBound (member : Member) (holder : Item) (name : String) : Item :=
  match name with
  | "__name__" => ofString member.name
  | "__qualname__" => ofString (boundName member holder)
  | "__self__" => if member.sort = .free then nothing else holder
  | "__objclass__" => kind member.owner
  | "__doc__" => description member.note?
  | "__text_signature__" => call member.note?
  | _ => nothing

/-- A computed member of a member that is taken from a kind. -/
def computedOfLoose (member : Member) (name : String) : Item :=
  match name with
  | "__name__" => ofString member.name
  | "__qualname__" => ofString member.fullName
  | "__objclass__" => kind member.owner
  | "__doc__" => description member.note?
  | "__text_signature__" => call member.note?
  | _ => nothing

/-- A computed member of a number. -/
def computedOfNumber (value : Nat) (name : String) : Item :=
  match name with
  | "imag" => number 0
  | "denominator" => number 1
  | _ => number value

/-- A computed member of a kind with an index. -/
def computedOfGeneric (origin : Kind) (index : Index) (name : String) : Item :=
  match name with
  | "__origin__" => kind origin
  | "__args__" => tuple [.index index]
  | "__parameters__" => tuple []
  | "__unpacked__" => truth false
  | _ => nothing

/-- A computed member of a member that needs neither an item nor the kind. -/
def computedOfFree (member : Member) (name : String) : Item :=
  match name with
  | "__func__" | "__wrapped__" => bound member (.kind member.owner)
  | "__isabstractmethod__" => truth false
  | "__dict__" => store
  | _ => nothing

/-- A computed member of an item. -/
def computed (item : Item) (name : String) : Except TemplateFault Item :=
  if name = "__class__" then .ok (kind item.kindOf)
  else match item with
    | kind which => computedOfKind which name
    | generic origin index => .ok (computedOfGeneric origin index name)
    | bound member holder => .ok (computedOfBound member holder name)
    | loose member => .ok (computedOfLoose member name)
    | free member => .ok (computedOfFree member name)
    | number value => .ok (computedOfNumber value name)
    | truth value => .ok (computedOfNumber value.toNat name)
    | _ => .ok nothing

/-- A member of the item's kind, for the item. -/
def holding (item : Item) (member : Member) : Except TemplateFault Item :=
  match member.sort with
  | .wrapper | .method => .ok (bound member item)
  | .kindMethod => .ok (bound member (kind item.kindOf))
  | .free => .ok (bound member (kind member.owner))
  | .maker | .constant => .ok member.kept
  | .property | .slot => item.computed member.name

/-- A member that the items of a kind have, taken from the kind. -/
def taken (kind : Kind) (member : Member) : Item :=
  match member.sort with
  | .kindMethod => bound member (.kind kind)
  | .free => bound member (.kind member.owner)
  | _ => member.kept

/-- The member of a kind. What is computed for kinds comes first, then what its items have, then
what else kinds have. -/
def memberOfKind (kind : Kind) (name : String) : Except TemplateFault Item :=
  match Kind.type.member? name, kind.member? name with
  | none, none => .error (.noMemberOfKind kind name)
  | none, some member => .ok (taken kind member)
  | some ofKinds, found =>
    if ofKinds.sort = .property || ofKinds.sort = .slot then (Item.kind kind).computed name
    else match found with
      | some member => .ok (taken kind member)
      | none => (Item.kind kind).holding ofKinds

/-- The member that an item has through its kind. -/
def memberThroughKind (item : Item) (name : String) : Except TemplateFault Item :=
  match item.kindOf.member? name with
  | some member => item.holding member
  | none => .error (.noMember item.kindOf name)

/-- The members that a kind with an index is asked for itself. -/
def genericMembers : List String :=
  ["__class__", "__origin__", "__args__", "__unpacked__", "__parameters__",
    "__typing_unpacked_tuple_args__", "__mro_entries__", "__reduce_ex__", "__reduce__", "__copy__",
    "__deepcopy__"]

/-- The member of an item. -/
def member (item : Item) (name : String) : Except TemplateFault Item :=
  match item with
  | kind which => memberOfKind which name
  | generic origin _ =>
    if name ∈ genericMembers then item.memberThroughKind name else memberOfKind origin name
  | _ => item.memberThroughKind name

/-- What an item has under an index. An item that takes no index, or none of its sort, is at fault
for being asked. -/
def atIndex (item : Item) (index : Index) : Except FillError Item :=
  match item, index with
  | text words, .place place => words[place]?.elim (.error .missing) fun c => .ok (text [c])
  | text _, .name _ => .error (.fault .indexByText)
  | tuple parts, .place place => parts[place]?.elim (.error .missing) fun part => .ok (ofPart part)
  | tuple _, .name _ => .error (.fault .tupleIndexByText)
  | members owner, .name name =>
    match owner.own.find? (·.name = String.ofList name) with
    | some member => .ok member.kept
    | none => .error .missing
  | members _, .place _ | store, _ => .error .missing
  | kind which, index =>
    if which.takesIndex then .ok (generic which index)
    else .error (.fault (.kindNotIndexable which))
  | generic _ _, _ => .error (.fault (.notGeneric item.detailed))
  | item, _ => .error (.fault (.notIndexable item.kindOf))

end Item

end TagOrder
