import Mathlib.Data.List.Forall2
import TagOrder.Audit
import TagOrder.Proofs.Document.Load
import TagOrder.Proofs.Rule.Standard

/-!
# What an audit tells of each dump

An audit tells of each dump either the violations of its document or that the dump is refused
(`Audited`), in the order of the dumps, and goes on behind a refused dump as behind any other
(`auditDumps_of_audited`). On a volume this holds unless a dump escapes: the first one that does
ends the audit with its error (`audit_places`). A dump whose octets are no text is one of these, and
takes the dumps around it with it (`audit_undecodable`).
-/

namespace TagOrder

section Storage

variable {σ : Type} {storage : Storage σ} {files : σ} {rule : Rule}

/-- What an audit tells of a dump: the violations of its document, or the dump as a refused one. -/
inductive Audited (storage : Storage σ) (files : σ) (rule : Rule) (dump : String) :
    FileAudit ⊕ String -> Prop where
  | file {document violations} (loaded : Document.load storage files dump = .ok document)
      (checked : checkTags rule document.tags = .ok violations) :
      Audited storage files rule dump (.inl ⟨document.path, violations⟩)
  | failed {fault} (refused : Document.load storage files dump = .error (.dump dump fault)) :
      Audited storage files rule dump (.inr dump)

/-- The audit that tells some things, in order. -/
def Audit.telling (entries : List (FileAudit ⊕ String)) : Audit where
  files := entries.filterMap Sum.getLeft?
  failed := entries.filterMap Sum.getRight?

/-- What is said of a dump when its turn comes, if it can be told of. -/
def auditNotice? (storage : Storage σ) (files : σ) (dump : String) : Option Notice :=
  match Document.load storage files dump with
  | .ok document => some (checkingNotice document)
  | .error (.dump path fault) => some (refusalNotice path fault)
  | .error _ => none

/-- An audit in front of which one more dump is told of. -/
theorem auditDumps_cons {dump : String} {entry : FileAudit ⊕ String}
    (told : Audited storage files rule dump entry) (rest : List String) :
    ∃ notice, auditNotice? storage files dump = some notice ∧
      auditDumps storage files rule (dump :: rest) =
        match auditDumps storage files rule rest with
        | .error halted => .error (halted.after [notice])
        | .ok (audit, notices) =>
          .ok (⟨(Sum.getLeft? entry).toList ++ audit.files,
            (Sum.getRight? entry).toList ++ audit.failed⟩, notice :: notices) := by
  rw [auditDumps, auditNotice?]
  cases told with
  | @file document violations loaded checked =>
    rw [loaded]
    dsimp only
    rw [checked]
    exact ⟨_, rfl, rfl⟩
  | @failed fault refused =>
    rw [refused]
    exact ⟨_, rfl, rfl⟩

/-- Dumps that can all be told of are told of in their order. -/
theorem auditDumps_of_audited {dumps : List String} {entries : List (FileAudit ⊕ String)}
    (told : List.Forall₂ (Audited storage files rule) dumps entries) :
    ∃ notices, auditDumps storage files rule dumps = .ok (.telling entries, notices) := by
  induction told with
  | nil => exact ⟨[], rfl⟩
  | @cons dump entry rest others here _ ih =>
    obtain ⟨notices, ended⟩ := ih
    obtain ⟨notice, -, next⟩ := auditDumps_cons here rest
    refine ⟨notice :: notices, ?_⟩
    rw [next, ended]
    cases entry <;> rfl

/-- An audit ends at the first dump that is neither loaded nor refused, when the dumps in front of
it have been told of. -/
theorem auditDumps_of_foreign {before after : List String} {dump : String}
    {entries : List (FileAudit ⊕ String)} {error : LoadError}
    (told : List.Forall₂ (Audited storage files rule) before entries)
    (ended : Document.load storage files dump = .error error)
    (foreign : ∀ fault, error ≠ .dump dump fault) :
    auditDumps storage files rule (before ++ dump :: after) = .error
      { fault := .load error, notices := before.filterMap (auditNotice? storage files) } := by
  induction told with
  | nil =>
    rw [List.nil_append, auditDumps, ended]
    cases error with
    | dump path fault =>
      obtain rfl := Document.path_of_load ended
      exact absurd rfl (foreign fault)
    | file error => rfl
    | beyond limit => rfl
  | @cons other entry rest others here _ ih =>
    obtain ⟨notice, said, next⟩ := auditDumps_cons here (rest ++ dump :: after)
    rw [List.cons_append, next, ih, List.filterMap_cons_some said]
    rfl

end Storage

section Volume

variable {volume : Volume} {rule : Rule}

/-- Every dump on a volume that does not escape can be told of. -/
theorem exists_audited {dumps : List String}
    (builds : ∀ dump ∈ dumps, ∀ document, Document.load Volume.storage volume dump = .ok document →
      ∃ violations, checkTags rule document.tags = .ok violations)
    (stays : ∀ dump ∈ dumps, ¬ Document.Escapes volume dump) :
    ∃ entries, List.Forall₂ (Audited Volume.storage volume rule) dumps entries := by
  induction dumps with
  | nil => exact ⟨[], .nil⟩
  | cons dump rest ih =>
    obtain ⟨entries, told⟩ := ih (fun other member => builds other (List.mem_cons_of_mem _ member))
      fun other member => stays other (List.mem_cons_of_mem _ member)
    cases ended : Document.load Volume.storage volume dump with
    | ok document =>
      obtain ⟨violations, checked⟩ := builds dump List.mem_cons_self document ended
      exact ⟨_ :: entries, .cons (.file ended checked) told⟩
    | error error =>
      by_cases refused : ∃ fault, error = .dump dump fault
      · obtain ⟨fault, rfl⟩ := refused
        exact ⟨_ :: entries, .cons (.failed ended) told⟩
      · refine absurd (Document.escapes_iff.mpr ⟨error, ended, fun fault same => ?_⟩)
          (stays dump List.mem_cons_self)
        exact refused ⟨fault, same⟩

/-- Under the standard template the tags of a document can be checked. -/
theorem checkTags_standard (standard : rule.template = Template.standard) (tags : List Tag) :
    ∃ violations, checkTags rule tags = .ok violations := by
  induction tags with
  | nil => exact ⟨[], rfl⟩
  | cons tag rest ih =>
    obtain ⟨violations, checked⟩ := Rule.check_standard standard tag
    obtain ⟨others, checkedRest⟩ := ih
    refine ⟨violations ++ others, ?_⟩
    rw [checkTags, checked, checkedRest]

/-- One dump aborts an audit just where it escapes. Loading ends with a document or refuses the dump
by its path, save for the dumps that escape. Where no collected dump does, an audit places each of
them, in order, among the files or among the failed ones; otherwise it ends with the error of the
first dump that escapes, whatever the dumps around it are like, and of those in front of it only
what was said remains. -/
theorem audit_places (volume : Volume) (rule : Rule) :
    (∀ dump, ¬ Document.Escapes volume dump ↔
      (∃ document, Document.load Volume.storage volume dump = .ok document) ∨
        ∃ fault, Document.load Volume.storage volume dump = .error (.dump dump fault)) ∧
    ∀ paths dumps warnings, collectDumps Volume.storage volume paths = .ok (dumps, warnings) →
      (∀ dump ∈ dumps, ∀ document, Document.load Volume.storage volume dump = .ok document →
        ∃ violations, checkTags rule document.tags = .ok violations) →
      ((∀ dump ∈ dumps, ¬ Document.Escapes volume dump) →
        ∃ entries notices, List.Forall₂ (Audited Volume.storage volume rule) dumps entries ∧
          audit Volume.storage volume rule paths = .ok (.telling entries, notices)) ∧
      ∀ before dump after, dumps = before ++ dump :: after →
        (∀ other ∈ before, ¬ Document.Escapes volume other) → Document.Escapes volume dump →
          ∃ error, Document.load Volume.storage volume dump = .error error ∧
            (∀ fault, error ≠ .dump dump fault) ∧
            audit Volume.storage volume rule paths = .error
              { fault := .load error
                notices := warnings ++ before.filterMap (auditNotice? Volume.storage volume) } := by
  refine ⟨fun dump => ?_, fun paths dumps warnings collected builds => ⟨fun stays => ?_, ?_⟩⟩
  · rw [Document.escapes_iff]
    cases Document.load Volume.storage volume dump with
    | ok document => simp
    | error error => simp
  · obtain ⟨entries, told⟩ := exists_audited builds stays
    obtain ⟨notices, ended⟩ := auditDumps_of_audited told
    refine ⟨entries, warnings ++ notices, told, ?_⟩
    rw [audit, collected]
    dsimp only
    rw [ended]
  · rintro before dump after rfl stays escapes
    obtain ⟨entries, told⟩ := exists_audited
      (fun other member => builds other (List.mem_append_left _ member)) stays
    obtain ⟨error, ended, foreign⟩ := escapes.exists_error
    refine ⟨error, ended, foreign, ?_⟩
    rw [audit, collected]
    dsimp only
    rw [auditDumps_of_foreign told ended foreign]
    rfl

/-- A volume with a dump of some octets in front of one that describes a source without tags. -/
def dumpVolume (octets : List UInt8) : Volume where
  entries :=
    [(["a.vue.attrs.json"], .file octets),
      (["b.vue.attrs.json"], .file (Utf8.encode "\x7b\"source\":\"b.vue\"\x7d".toList)),
      (["b.vue"], .file (Utf8.encode "<b>".toList))]

/-- The two dumps by the paths under which they are found. -/
def foundDumps : List String := ["/a.vue.attrs.json", "/b.vue.attrs.json"]

/-- The document of the second dump. -/
def bareDocument : Document where
  path := "/b.vue"
  text := "<b>".toList
  tags := []

/-- A dump in front of the second one that holds nothing but the octet 0xFF, which is in no text: it
is neither loaded nor refused, and the document of the second dump is not audited. -/
theorem audit_undecodable :
    let volume := dumpVolume [0xFF]
    let error := LoadError.file (.undecodable ⟨.badStart, 0, 1, 0xFF⟩)
    collectDumps Volume.storage volume ["a.vue.attrs.json", "b.vue.attrs.json"] =
        .ok (foundDumps, []) ∧
      Document.load Volume.storage volume "/a.vue.attrs.json" = .error error ∧
      Document.load Volume.storage volume "/b.vue.attrs.json" = .ok bareDocument ∧
      audit Volume.storage volume {} ["a.vue.attrs.json", "b.vue.attrs.json"] =
        .error { fault := .load error } := by
  intro volume error
  have collected : collectDumps Volume.storage volume ["a.vue.attrs.json", "b.vue.attrs.json"] =
      .ok (foundDumps, []) := eq_ok_of_toOption (by decide +kernel)
  have ended : Document.load Volume.storage volume "/a.vue.attrs.json" = .error error := rfl
  refine ⟨collected, ended, eq_ok_of_toOption (by decide +kernel), ?_⟩
  have aborted : auditDumps Volume.storage volume {}
      ([] ++ "/a.vue.attrs.json" :: ["/b.vue.attrs.json"]) = .error { fault := .load error } :=
    auditDumps_of_foreign .nil ended fun fault => nofun
  rw [audit, collected]
  dsimp only [foundDumps]
  rw [← List.nil_append ["/a.vue.attrs.json", "/b.vue.attrs.json"], aborted]
  rfl

/-- A dump in front of the second one that is no JSON: it is refused, and the second is audited. -/
theorem audit_places_dumpVolume :
    let volume := dumpVolume (Utf8.encode "\x7b".toList)
    ∃ entries notices,
      List.Forall₂ (Audited Volume.storage volume {}) foundDumps entries ∧
      audit Volume.storage volume {} ["a.vue.attrs.json", "b.vue.attrs.json"] =
        .ok (.telling entries, notices) := by
  intro volume
  have collected : collectDumps Volume.storage volume ["a.vue.attrs.json", "b.vue.attrs.json"] =
      .ok (foundDumps, []) := eq_ok_of_toOption (by decide +kernel)
  have refused : ∃ fault, Document.load Volume.storage volume "/a.vue.attrs.json" =
      .error (.dump "/a.vue.attrs.json" fault) := ⟨.notJson .propertyName 1, rfl⟩
  have loaded : Document.load Volume.storage volume "/b.vue.attrs.json" = .ok bareDocument :=
    eq_ok_of_toOption (by decide +kernel)
  obtain ⟨loads, audits⟩ := audit_places volume {}
  refine (audits _ foundDumps [] collected ?_).1 ?_
  · intro dump member document found
    exact checkTags_standard rfl document.tags
  · intro dump member
    rw [loads]
    rcases List.mem_pair.mp member with rfl | rfl
    · exact .inr refused
    · exact .inl ⟨_, loaded⟩

end Volume

end TagOrder
