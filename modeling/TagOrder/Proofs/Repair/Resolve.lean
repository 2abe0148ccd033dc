import TagOrder.Proofs.Fixing.Progress
import TagOrder.Proofs.Repair.Verdict

/-!
# Check, fix and repair agree

A check marks a violation as fixable, a fix gives its edits, and a repair applies them: each looks
the two attributes up again. All three answer for the same violations, and the edits do what the
mark promises (`fixes_agree`). `Script.Rearranges` says what that is without a word about movers and
slots: every place from `first` to `last` takes the text of one of these places, none is lost, and
what stood at `place` comes before what stood at `first`.
-/

namespace TagOrder

/-- A script that rearranges the attributes from the place `first` to the place `last`, so that the
one at `place` comes before the one at `first`. -/
structure Script.Rearranges (script : Script) (attributes : List Attribute)
    (first place last : Nat) : Prop where
  /-- There is one edit for each of the places, in source order. -/
  ranges : script.map (fun edit => some edit.range) =
    (List.range' first (last + 1 - first)).map fun slot => attributes[slot]?.map Attribute.range
  /-- The edits put in the texts from the same places. -/
  sources : ∃ sources : List Nat, sources.Perm (List.range' first (last + 1 - first)) ∧
    sources.idxOf place < sources.idxOf first ∧
    script.map (fun edit => some edit.replacement) =
      sources.map fun source => attributes[source]?.map Attribute.text

/-- What stands at neighbouring places of a list. -/
theorem map_getElem?_range' {attributes : List Attribute} {first count : Nat}
    (inside : first + count ≤ attributes.length) :
    (List.range' first count).map (attributes[·]?) =
      ((attributes.drop first).take count).map some := by
  induction count generalizing first with
  | zero => simp
  | succ count ih =>
    have bound : first < attributes.length := by omega
    rw [List.range'_succ, List.map_cons, ih (by omega), List.drop_eq_getElem_cons bound,
      List.take_succ_cons, List.map_cons, List.getElem?_eq_getElem bound]

namespace Block

variable {block : Block} {attributes : List Attribute}

/-- The slots stand at the places of the slots. -/
theorem map_slotPlaces (fits : block.Fits attributes) :
    block.slotPlaces.map (attributes[·]?) = (block.slots attributes).map some := by
  obtain ⟨passes, moves, inside⟩ := fits
  rw [slotPlaces, map_getElem?_range' (by omega), slots, List.drop_take]

/-- The occupants come from the places of the occupants. -/
theorem map_occupantPlaces (fits : block.Fits attributes) :
    block.occupantPlaces.map (attributes[·]?) = (block.occupants attributes).map some := by
  obtain ⟨passes, moves, inside⟩ := fits
  rw [occupantPlaces, List.map_append, map_getElem?_range' (by omega),
    map_getElem?_range' (by omega), occupants, movers, passed, List.drop_take, List.drop_take,
    List.map_append]

/-- The occupants come from the slots. -/
theorem occupantPlaces_perm (fits : block.Fits attributes) :
    block.occupantPlaces.Perm block.slotPlaces := by
  obtain ⟨passes, moves, inside⟩ := fits
  have joined : List.range' block.first (block.moving - block.first) ++
      List.range' block.moving (block.last + 1 - block.moving) = block.slotPlaces := by
    have next : block.moving = block.first + (block.moving - block.first) := by omega
    have count : block.last + 1 - block.first =
        block.moving - block.first + (block.last + 1 - block.moving) := by omega
    rw [slotPlaces, count, ← List.range'_append_1, ← next]
  rw [← joined]
  exact List.perm_append_comm

/-- Whatever moves comes before the first that it passes. -/
theorem idxOf_occupantPlaces_lt (fits : block.Fits attributes) {place : Nat}
    (above : block.moving ≤ place) (below : place ≤ block.last) :
    block.occupantPlaces.idxOf place < block.occupantPlaces.idxOf block.first := by
  have passes := fits.passes
  have moves : place ∈ List.range' block.moving (block.last + 1 - block.moving) :=
    List.mem_range'_1.mpr ⟨above, by omega⟩
  have stays : block.first ∉ List.range' block.moving (block.last + 1 - block.moving) :=
    fun member => by have := (List.mem_range'_1.mp member).1; omega
  rw [occupantPlaces, List.idxOf_append_of_mem moves, List.idxOf_append_of_notMem stays]
  exact Nat.lt_add_right _ (List.idxOf_lt_length_of_mem moves)

theorem map_range_script (fits : block.Fits attributes) :
    (block.script attributes).map Edit.range =
      (block.slots attributes).map Attribute.range := by
  rw [script, ← List.map_uncurry_zip_eq_zipWith, List.map_map]
  calc ((block.slots attributes).zip (block.occupants attributes)).map _
      = (((block.slots attributes).zip (block.occupants attributes)).map Prod.fst).map
          Attribute.range := (List.map_map ..).symm
    _ = (block.slots attributes).map Attribute.range := by
        rw [List.map_fst_zip (Nat.le_of_eq (length_occupants fits).symm)]

theorem map_replacement_script (fits : block.Fits attributes) :
    (block.script attributes).map Edit.replacement =
      (block.occupants attributes).map Attribute.text := by
  rw [script, ← List.map_uncurry_zip_eq_zipWith, List.map_map]
  calc ((block.slots attributes).zip (block.occupants attributes)).map _
      = (((block.slots attributes).zip (block.occupants attributes)).map Prod.snd).map
          Attribute.text := (List.map_map ..).symm
    _ = (block.occupants attributes).map Attribute.text := by
        rw [List.map_snd_zip (Nat.le_of_eq (length_occupants fits))]

/-- The script of a block rearranges it, whatever moves to the front. -/
theorem script_rearranges (fits : block.Fits attributes) {place : Nat}
    (above : block.moving ≤ place) (below : place ≤ block.last) :
    (block.script attributes).Rearranges attributes block.first place block.last where
  ranges := by
    calc (block.script attributes).map (fun edit => some edit.range)
        = ((block.script attributes).map Edit.range).map some := (List.map_map ..).symm
      _ = ((block.slots attributes).map some).map (Option.map Attribute.range) := by
          simp only [map_range_script fits, List.map_map, Function.comp_def, Option.map_some]
      _ = block.slotPlaces.map fun slot => attributes[slot]?.map Attribute.range := by
          rw [← map_slotPlaces fits, List.map_map]; rfl
  sources := by
    refine ⟨block.occupantPlaces, occupantPlaces_perm fits,
      idxOf_occupantPlaces_lt fits above below, ?_⟩
    calc (block.script attributes).map (fun edit => some edit.replacement)
        = ((block.script attributes).map Edit.replacement).map some := (List.map_map ..).symm
      _ = ((block.occupants attributes).map some).map (Option.map Attribute.text) := by
          simp only [map_replacement_script fits, List.map_map, Function.comp_def,
            Option.map_some]
      _ = block.occupantPlaces.map fun source => attributes[source]?.map Attribute.text := by
          rw [← map_occupantPlaces fits, List.map_map]; rfl

end Block

/-- The edits of a rotation rearrange the attributes from `previous` to the end of the cluster. -/
theorem rotationScript?_rearranges {attributes : List Attribute} {node previous : Attribute}
    {script : Script} (found : rotationScript? attributes node previous = some script) :
    ∃ first place, attributes.idxOf? previous = some first ∧ attributes.idxOf? node = some place ∧
      script.Rearranges attributes first place (clusterEnd attributes place) := by
  obtain ⟨block, chosen, rfl⟩ := Option.map_eq_some_iff.mp found
  have fits := block?_fits chosen
  obtain ⟨first, place, atFirst, atPlace, rfl, -⟩ := block?_eq_some.mp chosen
  exact ⟨first, place, atFirst, atPlace,
    Block.script_rearranges fits (clusterStart_le _ _) (le_clusterEnd _ _)⟩

/-- No pass of a repair is left without a result. -/
theorem RepairRun.resolved {rule : Rule} {left : Nat} {visited : List Visit}
    {passes : List RepairPass} {placed : Placed} {result : Repair}
    (run : RepairRun rule left visited passes placed result)
    (before : ∀ pass ∈ passes, pass.result ≠ none) :
    ∀ pass ∈ result.passes, pass.result ≠ none := by
  induction run with
  | clean checked => exact before
  | cycled checked misplaced seen => exact before
  | stopped checked misplaced fresh ending => exact before
  | pass checked fresh found rotated rest ih =>
    exact ih (List.forall_mem_append.mpr
      ⟨before, List.forall_mem_singleton.mpr (Option.some_ne_none _)⟩)

/-- A violation that a check reports is fixable exactly when it has a script, and exactly when it
can be applied. The script then makes of the text what applying the fix makes of it: it rearranges
the attributes from `previous` to the end of the cluster of `node`, both found where the first equal
attribute stands, and puts `node` before `previous`. So no repair ends for want of a result. -/
theorem fixes_agree (rule : Rule) (tag : Tag) (text : Text) :
    (∀ violations, rule.check tag = .ok violations → ∀ violation ∈ violations,
      (violation.fixable = true ↔ ∃ script, Rule.fix? violation = some script) ∧
      ((∃ script, Rule.fix? violation = some script) ↔
        ∃ next, Rule.applyFix? violation text = some next) ∧
      (violation.fixable = true → ∃ script next first place,
        Rule.fix? violation = some script ∧ Rule.applyFix? violation text = some next ∧
        script.apply text = next.text ∧
        tag.attributes.idxOf? violation.previous = some first ∧
        tag.attributes.idxOf? violation.node = some place ∧
        script.Rearranges tag.attributes first place (clusterEnd tag.attributes place))) ∧
    ∀ result, repair rule ⟨tag, text⟩ = .ok result →
      ∀ pass ∈ result.passes, pass.result ≠ none := by
  constructor
  · intro violations checked violation member
    have fixable := Rule.fixable_iff_of_mem_check checked member text
    rw [Rule.fix?_of_mem_check checked member, Rule.applyFix?_of_mem_check checked member, fixable]
    cases chosen : block? tag.attributes violation.node violation.previous with
    | none => simp [rotationScript?, rotate?, chosen]
    | some block =>
      have script : rotationScript? tag.attributes violation.node violation.previous =
          some (block.script tag.attributes) := by rw [rotationScript?, chosen, Option.map_some]
      have next : rotate? ⟨tag, text⟩ violation.node violation.previous =
          some (block.rotate ⟨tag, text⟩) := rotate?_eq_some.mpr ⟨block, chosen, rfl⟩
      obtain ⟨first, place, atFirst, atPlace, rearranges⟩ := rotationScript?_rearranges script
      rw [script, next]
      exact ⟨by simp, by simp, fun _ => ⟨_, _, first, place, rfl, rfl, rfl, atFirst, atPlace,
        rearranges⟩⟩
  · intro result repaired
    exact (RepairRun.of_repairFrom repaired).resolved (by simp)

/-- The fix of a violation carries a plain attribute and the spread bind beside it over a listener,
and every pass of the repair has its result. -/
theorem fixes_agree_coupledPair :
    (∃ violation script next, Rule.check {} coupledPair.tag = .ok [violation] ∧
      violation.fixable = true ∧ Rule.fix? violation = some script ∧
      Rule.applyFix? violation coupledPair.text = some next ∧
      script.apply coupledPair.text = next.text ∧
      script.Rearranges coupledPair.tag.attributes 0 2 2) ∧
    ∃ result, repair {} coupledPair = .ok result ∧ ∀ pass ∈ result.passes, pass.result ≠ none := by
  obtain ⟨agree, resolved⟩ := fixes_agree {} coupledPair.tag coupledPair.text
  constructor
  · let violation : Violation :=
      { message := "Attribute \"id\" should go before \"@click\".".toList
        node := coupledPair.tag.attributes[2], previous := coupledPair.tag.attributes[0]
        tag := coupledPair.tag }
    have checked : Rule.check {} coupledPair.tag = .ok [violation] :=
      eq_ok_of_toOption (by decide +kernel)
    obtain ⟨-, -, agreed⟩ := agree _ checked violation List.mem_cons_self
    obtain ⟨script, next, first, place, scripted, applied, same, atFirst, atPlace, rearranges⟩ :=
      agreed rfl
    obtain rfl : 0 = first :=
      Option.some.inj (Eq.trans (by decide +kernel) atFirst)
    obtain rfl : 2 = place :=
      Option.some.inj (Eq.trans (by decide +kernel) atPlace)
    exact ⟨violation, script, next, checked, rfl, scripted, applied, same, rearranges⟩
  · have standard : (Rule.template {}) = Template.standard := rfl
    obtain ⟨result, repaired⟩ := exists_repair standard coupledPair
    exact ⟨result, repaired, resolved result repaired⟩

end TagOrder
