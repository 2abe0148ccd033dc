import Mathlib.Data.List.Nodup
import TagOrder.Proofs.Options.Read
import TagOrder.Proofs.Pins

/-!
# Qualifiers as they are written

Qualifiers are read from texts without loss: each is written as the text that it was read from
(`Qualifier.toString_ofString`), so the qualifiers of a list that is accepted are as different as
its texts. An attribute is named by one qualifier alone (`Qualifier.names_iff`). Where no qualifier
is listed twice the place of an attribute is therefore the place of that qualifier
(`OnTop.index_eq_some_iff`), and it does not matter in which order the list is searched
(`OnTop.foundAnyhow`, `Options.readExceptions_lossless`).
-/

namespace TagOrder

namespace Qualifier

/-- A qualifier is written as the text that it was read from. -/
theorem toString_ofString (text : String) : (ofString text).toString = text := by
  unfold ofString
  split
  · rename_i name colon
    change ":" ++ String.ofList name = text
    rw [← String.toList_inj, String.toList_append, colon, String.toList_ofList,
      String.toList_ofList]
    rfl
  · rfl

/-- Different texts are read as different qualifiers. -/
theorem ofString_injective : Function.Injective ofString :=
  Function.LeftInverse.injective toString_ofString

end Qualifier

namespace OnTop

variable {onTop : OnTop} {places : List Nat} {node : Attribute} {place : Nat}

/-- In a list without repetitions at most one qualifier names an attribute. -/
theorem countP_names_le_one (distinct : onTop.Nodup) (node : Attribute) :
    (onTop.countP fun qualifier => qualifier.names node) ≤ 1 := by
  have same : (onTop.countP fun qualifier => qualifier.names node) =
      onTop.count (.ofAttribute node) := by
    refine List.countP_congr fun qualifier _ => ?_
    rw [Qualifier.names_iff, beq_iff_eq]
  rw [same]
  exact List.nodup_iff_count_le_one.mp distinct _

/-- Whether the qualifier at a place names an attribute. -/
def namesAt (onTop : OnTop) (node : Attribute) (place : Nat) : Bool :=
  onTop[place]?.any fun qualifier => qualifier.names node

/-- The place of the first qualifier that names an attribute, when the qualifiers are looked at in
the order of the given places. -/
def indexAlong (onTop : OnTop) (places : List Nat) (node : Attribute) : Option Nat :=
  places.find? (onTop.namesAt node)

/-- A search that comes to every qualifier sooner or later finds for each attribute the place that
a search from the front finds, in whatever order it goes. -/
def FoundAnyhow (onTop : OnTop) : Prop :=
  ∀ places : List Nat, (∀ place < onTop.length, place ∈ places) →
    ∀ node, onTop.indexAlong places node = onTop.index node

/-- An attribute stands where the qualifier does that names it. -/
theorem index_eq_some_iff (distinct : onTop.Nodup) :
    onTop.index node = some place ↔ onTop[place]? = some (.ofAttribute node) := by
  rw [index, List.findIdx?_eq_some_iff_getElem]
  constructor
  · rintro ⟨inside, named, -⟩
    rw [List.getElem?_eq_getElem inside, Qualifier.names_iff.mp named]
  · intro stands
    obtain ⟨inside, same⟩ := List.getElem?_eq_some_iff.mp stands
    refine ⟨inside, Qualifier.names_iff.mpr same, fun earlier before named => ?_⟩
    have again := (Qualifier.names_iff.mp named).trans same.symm
    exact Nat.ne_of_lt before ((distinct.getElem_inj_iff).mp again)

theorem namesAt_iff :
    onTop.namesAt node place = true ↔ onTop[place]? = some (.ofAttribute node) := by
  simp only [namesAt, Option.any_eq_true, Qualifier.names_iff, exists_eq_right]

theorem indexAlong_eq_some_iff (distinct : onTop.Nodup)
    (covers : ∀ place < onTop.length, place ∈ places) :
    onTop.indexAlong places node = some place ↔ onTop[place]? = some (.ofAttribute node) := by
  constructor
  · intro found
    exact namesAt_iff.mp (List.find?_some found)
  · intro stands
    have inside := (List.getElem?_eq_some_iff.mp stands).1
    have reached : (onTop.indexAlong places node).isSome :=
      List.find?_isSome.mpr ⟨place, covers place inside, namesAt_iff.mpr stands⟩
    obtain ⟨first, found⟩ := Option.isSome_iff_exists.mp reached
    have firstStands := namesAt_iff.mp (List.find?_some found)
    rw [found, (List.getElem?_inj inside distinct).mp (stands.trans firstStands.symm)]

/-- Where no qualifier is listed twice it does not matter how the list is searched. -/
theorem foundAnyhow (distinct : onTop.Nodup) : onTop.FoundAnyhow := by
  intro places covers node
  refine Option.ext fun place => ?_
  rw [index_eq_some_iff distinct, indexAlong_eq_some_iff distinct covers]

end OnTop

namespace Options

/-- Exceptions are read without loss and without doubt. When they are accepted, the qualifiers are
written as the texts of the list that they were read from, one for one; no two of them are the same;
at most one names an attribute; and the place that is found for an attribute is the same however
they are searched, all of them or those that are active in a tag. -/
theorem readExceptions_lossless {levels : Nat} {value : Value} {onTop : OnTop}
    (read : readExceptions levels value = .ok (some onTop)) :
    (∃ fields, ∃ names : List String, value = .table fields ∧
      settingOf fields "ontop" = some (.list (names.map .text)) ∧
      onTop.map Qualifier.toString = names) ∧
    onTop.Nodup ∧
    (∀ node, (onTop.countP fun qualifier => qualifier.names node) ≤ 1) ∧
    onTop.FoundAnyhow ∧ ∀ otherRank items, (onTop.active otherRank items).FoundAnyhow := by
  obtain ⟨-, none⟩ | ⟨fields, names, table, -, given, different, same⟩ :=
    readExceptions_eq_ok_iff.mp read
  · cases none
  · obtain rfl := Option.some.inj same
    have distinct := different.map Qualifier.ofString_injective
    have written : (names.map Qualifier.ofString).map Qualifier.toString = names := by
      rw [List.map_map]
      exact List.map_id'' Qualifier.toString_ofString names
    exact ⟨⟨fields, names, table, given, written⟩, distinct, OnTop.countP_names_le_one distinct,
      OnTop.foundAnyhow distinct, fun _ _ => OnTop.foundAnyhow (distinct.filter _)⟩

/-- A table of exceptions with texts that differ in their colons alone, one of them empty. The list
under the first spelling of the key does not count. -/
def colonExceptions : Value :=
  .table [("on-top", .list [.text "alt"]),
    ("onTop", .list ([":to", "to", "::to", "", ":"].map .text))]

/-- The qualifiers that are read from it. -/
def colonOnTop : OnTop := [⟨"to", true⟩, ⟨"to", false⟩, ⟨":to", true⟩, ⟨"", false⟩, ⟨"", true⟩]

/-- A bind of a whole object is called by no name. -/
def namelessBind : Attribute :=
  { directive := true, name := "bind", text := "v-bind=\"x\"".toList, keyText := "v-bind".toList }

/-- The last qualifier is the only one that names the bind, so a search from the back finds it at
the same place. -/
theorem readExceptions_lossless_colonExceptions :
    readExceptions Limits.usual.shown colonExceptions = .ok (some colonOnTop) ∧
      colonOnTop.map Qualifier.toString = [":to", "to", "::to", "", ":"] ∧
      (colonOnTop.countP fun qualifier => qualifier.names namelessBind) ≤ 1 ∧
      colonOnTop.indexAlong [4, 3, 2, 1, 0] namelessBind = colonOnTop.index namelessBind ∧
      colonOnTop.index namelessBind = some 4 := by
  have read : readExceptions Limits.usual.shown colonExceptions = .ok (some colonOnTop) :=
    eq_ok_of_toOption (by decide +kernel)
  obtain ⟨-, -, single, anyhow, -⟩ := readExceptions_lossless read
  exact ⟨read, by decide +kernel, single namelessBind, anyhow _ (by decide) namelessBind,
    by decide +kernel⟩

end Options

end TagOrder
