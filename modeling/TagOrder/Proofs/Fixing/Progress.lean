import TagOrder.Fixing
import TagOrder.Proofs.Edit.Merge
import TagOrder.Proofs.Repair.Run
import TagOrder.Proofs.Rule.Standard

/-!
# Progress of the repairs of a document

What one tag's repair keeps, the repairs of all tags keep (`repairTags_invariant`), whatever the
ranges of the attributes are: there is a script for each tag that counts as fixed
(`Document.length_scripts`), and the scripts put in no character that is neither in the text nor in
an attribute (`Document.holds_merge`). Under the packaged template the repairs always come to their
end (`Document.exists_repairs`).
-/

namespace TagOrder

/-- A tag and its text hold allowed characters only. -/
structure Placed.Holds (allowed : Char -> Prop) (placed : Placed) : Prop where
  text : ∀ c ∈ placed.text, allowed c
  nodes : ∀ node ∈ placed.tag.attributes, ∀ c ∈ node.text, allowed c

/-- An attribute of a rotated tag has the text of one that was there. -/
theorem Block.exists_text_of_mem_rotate {block : Block} {placed : Placed}
    (fits : block.Fits placed.tag.attributes) {node : Attribute}
    (member : node ∈ (block.rotate placed).tag.attributes) :
    ∃ other ∈ placed.tag.attributes, other.text = node.text := by
  have image := List.mem_map_of_mem (f := Attribute.unplaced) member
  rw [rotate_unplaced fits] at image
  obtain ⟨other, exchanged, same⟩ := List.mem_map.mp image
  have texts : other.unplaced.text = node.unplaced.text := by rw [same]
  refine ⟨other, ?_, texts⟩
  rw [eq_append fits]
  exact ((List.perm_append_comm.append_left _).append_right _).subset exchanged

/-- A rotation puts texts of attributes in place of others. -/
theorem Placed.Holds.rotate {allowed : Char -> Prop} {block : Block} {placed : Placed}
    (holds : placed.Holds allowed) (fits : block.Fits placed.tag.attributes) :
    (block.rotate placed).Holds allowed where
  text := by
    intro c member
    rcases Script.mem_or_exists_of_mem_apply member with before | ⟨edit, inScript, put⟩
    · exact holds.text c before
    · obtain ⟨index, stands⟩ := List.getElem?_of_mem inScript
      rw [Block.script, List.getElem?_zipWith_eq_some] at stands
      obtain ⟨slot, occupant, -, atOccupant, rfl⟩ := stands
      have inSlots := (Block.occupants_perm fits).subset (List.mem_of_getElem? atOccupant)
      exact holds.nodes occupant (List.mem_of_mem_take (List.mem_of_mem_drop inSlots)) c put
  nodes := by
    intro node member c inside
    obtain ⟨other, there, same⟩ := Block.exists_text_of_mem_rotate fits member
    exact holds.nodes other there c (same ▸ inside)

/-- Repairs keep to the allowed characters. -/
theorem Placed.Holds.repair {allowed : Char -> Prop} {rule : Rule} {placed : Placed}
    {result : Repair} (holds : placed.Holds allowed)
    (repaired : TagOrder.repair rule placed = .ok result) : result.placed.Holds allowed := by
  obtain ⟨⟨moves, run⟩, -⟩ := repair_rotations repaired
  refine run.invariant _ (fun before rotated => ?_) holds
  obtain ⟨block, found, rfl⟩ := rotate?_eq_some.mp rotated
  exact before.rotate (block?_fits found)

section Repairs

variable {rule : Rule} {path : String}

/-- What the repair of each tag keeps, the repairs of all keep. -/
theorem repairTags_invariant (holds : Progress -> Prop) {tags : List Tag}
    (kept : ∀ tag ∈ tags, ∀ progress next, holds progress →
      repairTag rule path progress tag = .ok next → holds next)
    {start progress : Progress} (begins : holds start)
    (finished : repairTags rule path start tags = .ok progress) : holds progress := by
  induction tags generalizing start with
  | nil =>
    obtain rfl := Except.ok.inj finished
    exact begins
  | cons tag rest ih =>
    rw [repairTags] at finished
    cases repaired : repairTag rule path start tag with
    | error fault =>
      rw [repaired] at finished
      cases finished
    | ok next =>
      rw [repaired] at finished
      exact ih (fun other member => kept other (List.mem_cons_of_mem _ member))
        (kept tag List.mem_cons_self start next begins repaired) finished

/-- What the repair of a tag adds to the repairs made so far. -/
theorem repairTag_eq_ok {progress next : Progress} {tag : Tag}
    (repaired : repairTag rule path progress tag = .ok next) :
    next = progress ∨ ∃ span result, tag.span = some span ∧
      repair rule ⟨tag, progress.text⟩ = .ok result ∧ next.text = result.placed.text ∧
      (next.scripts = progress.scripts ∧ next.fixed = progress.fixed ∨
        next.scripts = progress.scripts ++ [[⟨span, span.of next.text⟩]] ∧
          next.fixed = progress.fixed + 1) := by
  unfold repairTag at repaired
  cases covers : tag.span with
  | none =>
    rw [covers] at repaired
    exact .inl (Except.ok.inj repaired).symm
  | some span =>
    rw [covers] at repaired
    dsimp only at repaired
    cases finished : repair rule ⟨tag, progress.text⟩ with
    | error fault =>
      rw [finished] at repaired
      cases repaired
    | ok result =>
      rw [finished] at repaired
      obtain rfl := Except.ok.inj repaired
      refine .inr ⟨span, result, rfl, rfl, rfl, ?_⟩
      dsimp only
      split
      · exact .inr ⟨rfl, rfl⟩
      · exact .inl ⟨rfl, rfl⟩

/-- There is a script for each tag that counts as fixed. -/
theorem Document.length_scripts {document : Document} {progress : Progress}
    (finished : document.repairs rule = .ok progress) :
    progress.fixed = progress.scripts.length := by
  refine repairTags_invariant (fun progress => progress.fixed = progress.scripts.length)
    (fun tag _ progress next counted repaired => ?_) rfl finished
  rcases repairTag_eq_ok repaired with rfl | ⟨span, result, -, -, -, ⟨scripts, fixed⟩ |
    ⟨scripts, fixed⟩⟩
  · exact counted
  · rw [fixed, scripts, counted]
  · rw [fixed, scripts, counted, List.length_append, List.length_singleton]

/-- The repairs of a document whose text and attributes hold allowed characters only put in no
others. -/
theorem Document.holds_merge {allowed : Char -> Prop} {document : Document} {progress : Progress}
    {source : Text} (finished : document.repairs rule = .ok progress)
    (text : ∀ c ∈ document.text, allowed c)
    (nodes : ∀ tag ∈ document.tags, ∀ node ∈ tag.attributes, ∀ c ∈ node.text, allowed c)
    (legal : ∀ c ∈ source, allowed c) :
    ∀ c ∈ (Script.merge progress.scripts).apply source, allowed c := by
  have kept : (∀ c ∈ progress.text, allowed c) ∧ ∀ script ∈ progress.scripts,
      ∀ edit ∈ script, ∀ c ∈ edit.replacement, allowed c := by
    refine repairTags_invariant (fun progress => (∀ c ∈ progress.text, allowed c) ∧
      ∀ script ∈ progress.scripts, ∀ edit ∈ script, ∀ c ∈ edit.replacement, allowed c)
      (fun tag member progress next holds repaired => ?_) ⟨text, fun _ none => by cases none⟩
      finished
    rcases repairTag_eq_ok repaired with rfl | ⟨span, result, -, repair, same, scripts⟩
    · exact holds
    have placed : Placed.Holds allowed ⟨tag, progress.text⟩ := ⟨holds.1, nodes tag member⟩
    have after : ∀ c ∈ next.text, allowed c := same ▸ (placed.repair repair).text
    refine ⟨after, ?_⟩
    rcases scripts with ⟨scripts, -⟩ | ⟨scripts, -⟩ <;> rw [scripts]
    · exact holds.2
    · refine List.forall_mem_append.mpr ⟨holds.2, List.forall_mem_singleton.mpr ?_⟩
      refine List.forall_mem_singleton.mpr fun c inside => after c ?_
      exact List.mem_of_mem_take (List.mem_of_mem_drop inside)
  intro c member
  rcases Script.mem_or_exists_of_mem_apply member with before | ⟨edit, merged, put⟩
  · exact legal c before
  · obtain ⟨script, inScripts, inside⟩ := Script.exists_of_mem_merge merged
    exact kept.2 script inScripts edit inside c put

/-- Under the packaged template a repair comes to its end. -/
theorem exists_repair (standard : rule.template = Template.standard) (placed : Placed) :
    ∃ result, repair rule placed = .ok result := by
  rcases repairFrom_ends rule rule.options.maxPasses [] [] placed with
    ⟨result, run⟩ | ⟨moves, reached, fault, -, checked, -⟩
  · exact ⟨result, run.repairFrom_eq⟩
  · obtain ⟨violations, standing⟩ := Rule.check_standard standard reached.tag
    rw [standing] at checked
    cases checked

/-- And so do the repairs of a document. -/
theorem Document.exists_repairs (standard : rule.template = Template.standard)
    (document : Document) : ∃ progress, document.repairs rule = .ok progress := by
  have ends : ∀ (tags : List Tag) (start : Progress),
      ∃ progress, repairTags rule document.path start tags = .ok progress := by
    intro tags
    induction tags with
    | nil => exact fun start => ⟨start, rfl⟩
    | cons tag rest ih =>
      intro start
      obtain ⟨next, repaired⟩ : ∃ next, repairTag rule document.path start tag = .ok next := by
        unfold repairTag
        cases tag.span with
        | none => exact ⟨start, rfl⟩
        | some span =>
          obtain ⟨result, repaired⟩ := exists_repair standard ⟨tag, start.text⟩
          dsimp only
          rw [repaired]
          exact ⟨_, rfl⟩
      obtain ⟨progress, finished⟩ := ih next
      exact ⟨progress, by rw [repairTags, repaired]; exact finished⟩
  exact ends document.tags _

end Repairs

end TagOrder
