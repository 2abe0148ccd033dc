import TagOrder.Proofs.Document.Load
import TagOrder.Storage.Shelf

/-!
# The format of dumps

What a dump lists is told twice. `IsTag` and `IsAttribute` say which values are of the right form,
and nothing else of them. `ListsTag` and `ListsAttribute` relate such a value to what is read from
it. A reader gives the one thing that its value lists (`readAttribute_eq_ok_iff`,
`tagsField_eq_ok_iff`), and a value lists something exactly when it is of the right form
(`isAttribute_iff`, `isTag_iff`). So a dump whose source can be read is loaded exactly when its tags
are of this form, and is refused otherwise (`load_format`). This is said of dumps that are within
the limits of JSON: a number with too many digits ends the loading where a shorter one is refused
(`load_beyond`).

Of the ranges in a dump only this is looked at: that each lies inside the source. So every attribute
of a document that is loaded holds what its range covers of the text (`Document.readsOff_of_load`),
and nothing is said of how two ranges lie to each other.
-/

namespace TagOrder

/-- An attribute whose ranges lie in a text and which holds what they cover. -/
structure Attribute.ReadsOff (source : Text) (node : Attribute) : Prop where
  starts : 0 ≤ node.range.start
  ordered : node.range.start ≤ node.range.stop
  stops : node.range.stop ≤ source.length
  text : node.text = node.range.of source
  keyText : node.keyText = node.keyRange.of source

/-- The displays of values, one for each. -/
theorem forall₂_display_iff {values : List Value} {shown : List String} :
    List.Forall₂ (fun value text => value.display = text) values shown ↔
      values.map Value.display = shown := by
  rw [← List.forall₂_eq_eq_eq, List.forall₂_map_left_iff]

namespace Dump

/-- The members of a list that may be absent. -/
inductive Members : Option Value -> List Value -> Prop where
  | absent : Members none []
  | list (items : List Value) : Members (some (.list items)) items

/-- A value that may be absent and is a list otherwise, with members of one form. -/
def IsListOf (form : Value -> Prop) (value : Option Value) : Prop :=
  ∃ items, Members value items ∧ ∀ item ∈ items, form item

/-- What a list that may be absent lists, one thing for each member. -/
def Lists {α : Type} (relation : Value -> α -> Prop) (value : Option Value)
    (results : List α) : Prop :=
  ∃ items, Members value items ∧ List.Forall₂ relation items results

/-- A value that lists a span of a text: a pair of whole offsets into it, in order. -/
structure ListsSpan (text : Text) (value : Option Value) (span : Span) : Prop where
  pair : value = some (.list [.int span.start, .int span.stop])
  starts : 0 ≤ span.start
  ordered : span.start ≤ span.stop
  stops : span.stop ≤ text.length

/-- An argument, which may be absent or null. -/
inductive ListsArgument : Option Value -> Option String -> Prop where
  | absent : ListsArgument none none
  | null : ListsArgument (some .null) none
  | text (argument : String) : ListsArgument (some (.text argument)) (some argument)

/-- A value that lists an attribute of a tag in a text. -/
structure ListsAttribute (source : Text) (value : Value) (node : Attribute) : Prop where
  name : value.get? "name" = some (.text node.name)
  range : ListsSpan source (value.get? "range") node.range
  keyRange : ListsSpan source (value.get? "keyRange") node.keyRange
  argument : ListsArgument (value.get? "argument") node.argument
  modifiers : Lists (fun modifier shown => modifier.display = shown) (value.get? "modifiers")
    node.modifiers
  directive : node.directive = (value.get? "directive").any Value.isTrue
  dynamic : node.dynamic = (value.get? "dynamic").any Value.isTrue
  text : node.text = node.range.of source
  keyText : node.keyText = node.keyRange.of source
  line : node.line = (source.position node.range.start).line
  column : node.column = (source.position node.range.start).column

/-- A value that lists a tag of a source, with one attribute for each that is listed. -/
structure ListsTag (path : String) (source : Text) (value : Value) (tag : Tag) : Prop where
  table : ∃ fields, value = .table fields
  name : tag.name = ((value.get? "name").getD (.text "")).display
  path : tag.path = path
  attributes : Lists (ListsAttribute source) (value.get? "attributes") tag.attributes

/-- A pair of whole offsets into a text, in order. -/
def IsSpan (source : Text) (value : Option Value) : Prop :=
  ∃ start stop : Int, value = some (.list [.int start, .int stop]) ∧
    0 ≤ start ∧ start ≤ stop ∧ stop ≤ source.length

/-- An attribute in the right form. -/
structure IsAttribute (source : Text) (value : Value) : Prop where
  table : ∃ fields, value = .table fields
  name : ∃ name, value.get? "name" = some (.text name)
  range : IsSpan source (value.get? "range")
  keyRange : IsSpan source (value.get? "keyRange")
  argument : value.get? "argument" = none ∨ value.get? "argument" = some .null ∨
    ∃ argument, value.get? "argument" = some (.text argument)
  modifiers : IsListOf (fun _ => True) (value.get? "modifiers")

/-- A tag in the right form. -/
structure IsTag (source : Text) (value : Value) : Prop where
  table : ∃ fields, value = .table fields
  attributes : IsListOf (IsAttribute source) (value.get? "attributes")

section Forms

variable {path : String} {source : Text} {value : Value} {given : Option Value}

/-- The members of a list are those of the list it stands for. -/
theorem members_iff {items : List Value} :
    Members given items ↔ given.getD (.list []) = .list items := by
  constructor
  · rintro (_ | _) <;> rfl
  · intro same
    cases given with
    | none =>
      obtain rfl := Value.list.inj same
      exact .absent
    | some value =>
      obtain rfl : value = .list items := same
      exact .list items

/-- When a form is that of the values that list something, a list of this form is one that lists
things. -/
theorem isListOf_iff {α : Type} {form : Value -> Prop} {relation : Value -> α -> Prop}
    (forms : ∀ value, form value ↔ ∃ result, relation value result) :
    IsListOf form given ↔ ∃ results, Lists relation given results := by
  constructor
  · rintro ⟨items, members, each⟩
    obtain ⟨results, listed⟩ := exists_forall₂_iff.mpr fun item member =>
      (forms item).mp (each item member)
    exact ⟨results, items, members, listed⟩
  · rintro ⟨results, items, members, listed⟩
    exact ⟨items, members, fun item member =>
      (forms item).mpr (exists_forall₂_iff.mp ⟨results, listed⟩ item member)⟩

theorem isSpan_iff : IsSpan source given ↔ ∃ span, ListsSpan source given span := by
  constructor
  · rintro ⟨start, stop, pair, starts, ordered, stops⟩
    exact ⟨⟨start, stop⟩, pair, starts, ordered, stops⟩
  · rintro ⟨⟨start, stop⟩, pair, starts, ordered, stops⟩
    exact ⟨start, stop, pair, starts, ordered, stops⟩

/-- An attribute is in the right form exactly when it lists one. -/
theorem isAttribute_iff : IsAttribute source value ↔ ∃ node, ListsAttribute source value node := by
  constructor
  · rintro ⟨-, ⟨name, named⟩, range, keyRange, argument, modifiers⟩
    obtain ⟨range, covers⟩ := isSpan_iff.mp range
    obtain ⟨keyRange, coversKey⟩ := isSpan_iff.mp keyRange
    have argued : ∃ argument, ListsArgument (value.get? "argument") argument := by
      rcases argument with absent | null | ⟨argument, text⟩
      · exact ⟨none, absent ▸ .absent⟩
      · exact ⟨none, null ▸ .null⟩
      · exact ⟨some argument, text ▸ .text argument⟩
    obtain ⟨argument, argued⟩ := argued
    obtain ⟨items, members, -⟩ := modifiers
    let position := source.position range.start
    exact ⟨{ directive := (value.get? "directive").any Value.isTrue, name, range, keyRange
             text := range.of source, keyText := keyRange.of source, argument
             dynamic := (value.get? "dynamic").any Value.isTrue
             modifiers := items.map Value.display
             line := position.line, column := position.column },
      named, covers, coversKey, argued, ⟨items, members, forall₂_display_iff.mpr rfl⟩,
      rfl, rfl, rfl, rfl, rfl, rfl⟩
  · rintro ⟨node, lists⟩
    refine ⟨?_, ⟨_, lists.name⟩, isSpan_iff.mpr ⟨_, lists.range⟩,
      isSpan_iff.mpr ⟨_, lists.keyRange⟩, ?_, ?_⟩
    · cases value with
      | table fields => exact ⟨fields, rfl⟩
      | _ => cases lists.name
    · have given := lists.argument
      generalize value.get? "argument" = given, node.argument = argument at given
      cases given with
      | absent => exact .inl rfl
      | null => exact .inr (.inl rfl)
      | text argument => exact .inr (.inr ⟨argument, rfl⟩)
    · obtain ⟨items, members, -⟩ := lists.modifiers
      exact ⟨items, members, fun _ _ => trivial⟩

/-- A tag is in the right form exactly when it lists one. -/
theorem isTag_iff : IsTag source value ↔ ∃ tag, ListsTag path source value tag := by
  constructor
  · rintro ⟨table, attributes⟩
    obtain ⟨nodes, listed⟩ := (isListOf_iff fun _ => isAttribute_iff).mp attributes
    exact ⟨⟨_, nodes, path⟩, table, rfl, rfl, listed⟩
  · rintro ⟨tag, table, -, -, listed⟩
    exact ⟨table, (isListOf_iff fun _ => isAttribute_iff).mpr ⟨_, listed⟩⟩

/-- Each thing in what is listed is listed by a value. -/
theorem Lists.exists_of_mem {α : Type} {relation : Value -> α -> Prop} {results : List α}
    (lists : Lists relation given results) :
    ∀ result ∈ results, ∃ value, relation value result := by
  obtain ⟨items, -, listed⟩ := lists
  exact exists_forall₂_iff.mp ⟨items, listed.flip⟩

theorem ListsAttribute.readsOff {node : Attribute} (lists : ListsAttribute source value node) :
    node.ReadsOff source :=
  ⟨lists.range.starts, lists.range.ordered, lists.range.stops, lists.text, lists.keyText⟩

end Forms

section Readers

variable {path key name : String} {source : Text} {value : Value} {fields : Fields}

/-- A reader of lists that takes their members one after another. -/
theorem readAll_eq_ok_iff {α : Type} {relation : Value -> α -> Prop}
    (read : Value -> Except DumpFault α) (readAll : List Value -> Except DumpFault (List α))
    (nil : readAll [] = .ok [])
    (cons : ∀ value rest, readAll (value :: rest) = do
      let result ← read value
      let others ← readAll rest
      return result :: others)
    (reads : ∀ value result, read value = .ok result ↔ relation value result)
    {values : List Value} {results : List α} :
    readAll values = .ok results ↔ List.Forall₂ relation values results := by
  induction values generalizing results with
  | nil => simp [nil, eq_comm]
  | cons value rest ih =>
    simp only [cons, bind_eq_ok_iff, ih, reads, List.forall₂_cons_left_iff]
    constructor
    · rintro ⟨result, here, others, later, same⟩
      exact ⟨result, others, here, later, (Except.ok.inj same).symm⟩
    · rintro ⟨result, others, here, later, rfl⟩
      exact ⟨result, here, others, later, rfl⟩

theorem readSpan_eq_ok_iff {span : Span} :
    readSpan source value = .ok span ↔ ListsSpan source (some value) span := by
  unfold readSpan
  constructor
  · intro read
    split at read
    · split at read
      · rename_i inside
        obtain rfl := Except.ok.inj read
        simp only [Bool.and_eq_true, decide_eq_true_eq] at inside
        exact ⟨rfl, inside.1.1, inside.1.2, inside.2⟩
      · cases read
    · cases read
  · rintro ⟨pair, starts, ordered, stops⟩
    obtain rfl := Option.some.inj pair
    simp [starts, ordered, stops]

theorem spanField_eq_ok_iff {span : Span} :
    spanField source fields key = .ok span ↔ ListsSpan source (fields.get? key) span := by
  unfold spanField
  cases fields.get? key with
  | none =>
    constructor
    · nofun
    · rintro ⟨⟨⟩, -⟩
  | some value => exact readSpan_eq_ok_iff

theorem argumentField_eq_ok_iff {argument : Option String} :
    argumentField name fields = .ok argument ↔
      ListsArgument (fields.get? "argument") argument := by
  unfold argumentField
  generalize fields.get? "argument" = given
  constructor
  · intro read
    split at read
    · obtain rfl := Except.ok.inj read
      exact .absent
    · obtain rfl := Except.ok.inj read
      exact .null
    · obtain rfl := Except.ok.inj read
      exact .text _
    · cases read
  · rintro (_ | _ | _) <;> rfl

theorem modifiersField_eq_ok_iff {modifiers : List String} :
    modifiersField name fields = .ok modifiers ↔
      Lists (fun modifier shown => modifier.display = shown) (fields.get? "modifiers")
        modifiers := by
  unfold modifiersField
  generalize fields.get? "modifiers" = given
  constructor
  · intro read
    split at read
    · obtain rfl := Except.ok.inj read
      exact ⟨[], .absent, .nil⟩
    · obtain rfl := Except.ok.inj read
      exact ⟨_, .list _, forall₂_display_iff.mpr rfl⟩
    · cases read
  · rintro ⟨items, members, shown⟩
    obtain rfl := forall₂_display_iff.mp shown
    cases members <;> rfl

/-- The attribute that is read is the one that is listed. -/
theorem readAttribute_eq_ok_iff {node : Attribute} :
    readAttribute source value = .ok node ↔ ListsAttribute source value node := by
  constructor
  · intro read
    cases value with
    | table fields =>
      dsimp only [readAttribute, Value.fields?] at read
      split at read
      · rename_i named
        obtain ⟨range, ranged, read⟩ := bind_eq_ok_iff.mp read
        obtain ⟨keyRange, keyRanged, read⟩ := bind_eq_ok_iff.mp read
        obtain ⟨argument, argued, read⟩ := bind_eq_ok_iff.mp read
        obtain ⟨modifiers, modified, read⟩ := bind_eq_ok_iff.mp read
        obtain rfl := Except.ok.inj read
        exact {
          name := named
          range := spanField_eq_ok_iff.mp ranged
          keyRange := spanField_eq_ok_iff.mp keyRanged
          argument := argumentField_eq_ok_iff.mp argued
          modifiers := modifiersField_eq_ok_iff.mp modified
          directive := rfl
          dynamic := rfl
          text := rfl
          keyText := rfl
          line := rfl
          column := rfl }
      · cases read
    | _ => cases read
  · intro lists
    cases value with
    | table fields =>
      have named : Fields.get? fields "name" = some (.text node.name) := lists.name
      have directive : flagField fields "directive" = node.directive := lists.directive.symm
      have dynamic : flagField fields "dynamic" = node.dynamic := lists.dynamic.symm
      dsimp only [readAttribute, Value.fields?]
      rw [named]
      refine bind_eq_ok_iff.mpr ⟨_, spanField_eq_ok_iff.mpr lists.range, ?_⟩
      refine bind_eq_ok_iff.mpr ⟨_, spanField_eq_ok_iff.mpr lists.keyRange, ?_⟩
      refine bind_eq_ok_iff.mpr ⟨_, argumentField_eq_ok_iff.mpr lists.argument, ?_⟩
      refine bind_eq_ok_iff.mpr ⟨_, modifiersField_eq_ok_iff.mpr lists.modifiers, ?_⟩
      rw [directive, dynamic, ← lists.text, ← lists.keyText, ← lists.line, ← lists.column]
      rfl
    | _ => cases lists.name

theorem readTag_eq_ok_iff {tag : Tag} :
    readTag path source value = .ok tag ↔ ListsTag path source value tag := by
  have attributes {items : List Value} {nodes : List Attribute} :
      readAttributes source items = .ok nodes ↔
        List.Forall₂ (ListsAttribute source) items nodes :=
    readAll_eq_ok_iff (readAttribute source) (readAttributes source) rfl (fun _ _ => rfl)
      fun _ _ => readAttribute_eq_ok_iff
  constructor
  · intro read
    cases value with
    | table fields =>
      dsimp only [readTag, Value.fields?] at read
      split at read
      · rename_i items given
        obtain ⟨nodes, listed, read⟩ := bind_eq_ok_iff.mp read
        obtain rfl := Except.ok.inj read
        exact ⟨⟨fields, rfl⟩, rfl, rfl, items, members_iff.mpr given, attributes.mp listed⟩
      · cases read
    | _ => cases read
  · rintro ⟨⟨fields, rfl⟩, named, placed, items, members, listed⟩
    have given : (Fields.get? fields "attributes").getD (.list []) = .list items :=
      members_iff.mp members
    dsimp only [readTag, Value.fields?]
    rw [given]
    refine bind_eq_ok_iff.mpr ⟨_, attributes.mpr listed, ?_⟩
    cases tag
    obtain rfl := named
    obtain rfl := placed
    rfl

/-- The tags that are read are those that are listed. -/
theorem tagsField_eq_ok_iff {tags : List Tag} :
    tagsField path source fields = .ok tags ↔
      Lists (ListsTag path source) (fields.get? "tags") tags := by
  have listed {items : List Value} :
      readTags path source items = .ok tags ↔ List.Forall₂ (ListsTag path source) items tags :=
    readAll_eq_ok_iff (readTag path source) (readTags path source) rfl (fun _ _ => rfl)
      fun _ _ => readTag_eq_ok_iff
  unfold tagsField
  constructor
  · intro read
    split at read
    · exact ⟨_, members_iff.mpr ‹_›, listed.mp read⟩
    · cases read
  · rintro ⟨items, members, related⟩
    rw [members_iff.mp members]
    exact listed.mpr related

/-- Tags are read exactly from a list of tags that may be absent. -/
theorem isListOf_tags_iff :
    IsListOf (IsTag source) (fields.get? "tags") ↔
      ∃ tags, tagsField path source fields = .ok tags :=
  (isListOf_iff fun _ => isTag_iff).trans (exists_congr fun _ => tagsField_eq_ok_iff.symm)

end Readers

end Dump

namespace Document

variable {σ : Type} {storage : Storage σ} {files : σ} {dump source : String} {fields : Fields}
  {text : Text}

/-- A dump whose source is read is loaded exactly when its tags are in the right form, and is
refused otherwise. What is loaded is what the dump lists. -/
theorem load_format (table : readDump storage files dump = .ok fields)
    (named : Dump.sourceField fields = .ok source)
    (reads : storage.read files (Dump.sourcePath dump source) = .ok text) :
    ((∃ document, load storage files dump = .ok document) ↔
        Dump.IsListOf (Dump.IsTag text) (fields.get? "tags")) ∧
      (¬ Dump.IsListOf (Dump.IsTag text) (fields.get? "tags") →
        ∃ fault, load storage files dump = .error (.dump dump fault)) ∧
      ∀ document, load storage files dump = .ok document →
        document.path = Dump.sourcePath dump source ∧ document.text = text ∧
          Dump.Lists (Dump.ListsTag document.path text) (fields.get? "tags") document.tags := by
  rw [Dump.isListOf_tags_iff]
  unfold load
  rw [table]
  dsimp only [ofFields]
  rw [named]
  dsimp only
  rw [reads]
  dsimp only
  cases listed : Dump.tagsField (Dump.sourcePath dump source) text fields with
  | error fault =>
    refine ⟨⟨?_, ?_⟩, fun _ => ⟨fault, rfl⟩, fun _ => nofun⟩
    · nofun
    · nofun
  | ok tags =>
    refine ⟨⟨fun _ => ⟨tags, rfl⟩, fun _ => ⟨_, rfl⟩⟩, fun unlisted => ?_, ?_⟩
    · exact absurd ⟨tags, rfl⟩ unlisted
    · rintro document loaded
      obtain rfl := Except.ok.inj loaded
      exact ⟨rfl, rfl, Dump.tagsField_eq_ok_iff.mp listed⟩

/-- Every attribute of a document that is loaded is read off its text. -/
theorem readsOff_of_load {document : Document} (loaded : load storage files dump = .ok document) :
    ∀ tag ∈ document.tags, ∀ node ∈ tag.attributes, node.ReadsOff document.text := by
  obtain ⟨fields, source, -, -, -, -, read⟩ := exists_of_load loaded
  intro tag member node inTag
  obtain ⟨value, listed⟩ := (Dump.tagsField_eq_ok_iff.mp read).exists_of_mem tag member
  obtain ⟨value, listed⟩ := listed.attributes.exists_of_mem node inTag
  exact listed.readsOff

/-- A source with two dumps: one lists an attribute of it, and the other has null for its tags. -/
def listedShelf : Shelf where
  texts :=
    [("page.vue", "<a id=\"x\" b>".toList),
      ("page.vue.attrs.json",
        ("\x7b\"source\":\"page.vue\",\"tags\":[\x7b\"name\":\"a\",\"attributes\":[" ++
          "\x7b\"name\":\"id\",\"range\":[3,9],\"keyRange\":[3,5]\x7d]\x7d]\x7d").toList),
      ("null.attrs.json", "\x7b\"source\":\"page.vue\",\"tags\":null\x7d".toList)]

/-- The document of the first dump. -/
def listedDocument : Document where
  path := "page.vue"
  text := "<a id=\"x\" b>".toList
  tags :=
    [{ name := "a"
       path := "page.vue"
       attributes :=
        [{ name := "id", range := ⟨3, 9⟩, keyRange := ⟨3, 5⟩, text := "id=\"x\"".toList
           keyText := "id".toList, column := 3 }] }]

/-- The first dump is in the right form and lists the tag, and the other one is refused. -/
theorem load_format_listedShelf :
    (∃ fields, readDump Shelf.storage listedShelf "page.vue.attrs.json" = .ok fields ∧
        Dump.IsListOf (Dump.IsTag listedDocument.text) (fields.get? "tags") ∧
        Dump.Lists (Dump.ListsTag "page.vue" listedDocument.text) (fields.get? "tags")
          listedDocument.tags) ∧
      ∃ fields fault, readDump Shelf.storage listedShelf "null.attrs.json" = .ok fields ∧
        fields.get? "tags" = some .null ∧
        load Shelf.storage listedShelf "null.attrs.json" =
          .error (.dump "null.attrs.json" fault) := by
  constructor
  · have loaded : load Shelf.storage listedShelf "page.vue.attrs.json" = .ok listedDocument :=
      eq_ok_of_toOption (by decide +kernel)
    obtain ⟨fields, source, table, named, path, reads, -⟩ := exists_of_load loaded
    have whole := load_format table named (path ▸ reads)
    exact ⟨fields, table, whole.1.mp ⟨_, loaded⟩, (whole.2.2 _ loaded).2.2⟩
  · have read : (readDump Shelf.storage listedShelf "null.attrs.json").toOption.any (fun fields =>
        (Dump.sourceField fields).toOption == some "page.vue" &&
          (fields.get? "tags").any (· matches .null)) = true := by decide +kernel
    obtain ⟨fields, table, checked⟩ := (Option.any_eq_true _ _).mp read
    obtain ⟨named, given⟩ := Bool.and_eq_true_iff.mp checked
    obtain ⟨value, given, isNull⟩ := (Option.any_eq_true _ _).mp given
    have null : fields.get? "tags" = some .null := by
      cases value with
      | null => exact given
      | _ => cases isNull
    have reads : Shelf.storage.read listedShelf (Dump.sourcePath "null.attrs.json" "page.vue") =
        .ok listedDocument.text := eq_ok_of_toOption (by decide +kernel)
    have named := eq_ok_of_toOption (beq_iff_eq.mp named)
    have whole := load_format (eq_ok_of_toOption table) named reads
    have unlisted : ¬ Dump.IsListOf (Dump.IsTag listedDocument.text) (fields.get? "tags") := by
      rintro ⟨items, members, -⟩
      rw [null] at members
      cases members
    obtain ⟨fault, refused⟩ := whole.2.1 unlisted
    exact ⟨fields, fault, eq_ok_of_toOption table, null, refused⟩

/-- A dump that has a number for its tags, with as many digits as can be read and one more. -/
def numberedDump : Text :=
  "\x7b\"source\":\"page.vue\",\"tags\":".toList ++ List.replicate (digitLimit + 1) '1' ++
    "\x7d".toList

/-- A source with this dump. -/
def numberedShelf : Shelf where
  texts := [("page.vue", "<a>".toList), ("page.vue.attrs.json", numberedDump)]

/-- The dump is neither loaded nor refused, though its source is read and its tags are no list. -/
theorem load_beyond :
    Shelf.storage.read numberedShelf "page.vue.attrs.json" = .ok numberedDump ∧
      Shelf.storage.read numberedShelf
        (Dump.sourcePath "page.vue.attrs.json" "page.vue") = .ok "<a>".toList ∧
      load Shelf.storage numberedShelf "page.vue.attrs.json" =
        .error (.beyond (.digits (digitLimit + 1))) := by
  have reads : Shelf.storage.read numberedShelf "page.vue.attrs.json" = .ok numberedDump := rfl
  have faulty : (error? (Json.read Shelf.storage.limits.json numberedDump)).map (·.fault) =
      some (.beyond (.digits (digitLimit + 1))) := by decide +kernel
  obtain ⟨⟨fault, unread⟩, found, rfl⟩ := Option.map_eq_some_iff.mp faulty
  refine ⟨reads, eq_ok_of_toOption (by decide +kernel), ?_⟩
  unfold load readDump
  rw [reads]
  dsimp only
  rw [eq_error_of_error? found]
  rfl

end Document

end TagOrder
