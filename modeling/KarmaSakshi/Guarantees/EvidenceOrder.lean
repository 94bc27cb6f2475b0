import KarmaSakshi.Evidence.Quality
import KarmaSakshi.Guarantees.QuorumOrder

/-!
How far the evaluation of evidence depends on the order of the records.

The assessment reads of the records that count their ids in the order of their kinds, and
the strongest kind.  Of several latest records of one id the last one counts, so where
these differ in kind the order of the records can decide both.
-/

namespace KarmaSakshi.Guarantees

open KarmaSakshi.Domain KarmaSakshi.Evidence Selection
open KarmaSakshi.Evidence.EvidenceRecord (evidenceId collectedAt sortKey)

set_option autoImplicit false

/-! ### The latest records -/

section Latest

/-- One of the latest surviving records of its id. -/
abbrev LatestAmong (survivors : List EvidenceRecord) (record : EvidenceRecord) : Prop :=
  Greatest evidenceId collectedAt survivors record

/-- Exchanging latest records of one id changes neither which kind is the strongest nor in
which order the ids come. -/
structure TiesHarmless (survivors : List EvidenceRecord) : Prop where
  strongest : ∀ top, LatestAmong survivors top → ∃ some, LatestAmong survivors some ∧
    ∀ tied, LatestAmong survivors tied → tied.evidenceId = some.evidenceId →
      top.kind.rank ≤ tied.kind.rank
  ordered : ∀ first firstTied second secondTied, LatestAmong survivors first →
    LatestAmong survivors firstTied → LatestAmong survivors second →
    LatestAmong survivors secondTied → firstTied.evidenceId = first.evidenceId →
    secondTied.evidenceId = second.evidenceId → first.evidenceId ≠ second.evidenceId →
      first.sortKey < second.sortKey → firstTied.sortKey < secondTied.sortKey

variable {survivors others : List EvidenceRecord} {record latest best : EvidenceRecord}

theorem mem_accepted : record ∈ acceptedRecords survivors ↔ record ∈ latestById survivors :=
  List.mem_mergeSort

theorem greatest_reversed :
    LatestAmong survivors.reverse record ↔ LatestAmong survivors record := by
  constructor
  · exact fun greatest => greatest.of_members (fun _ => List.mem_reverse)
  · exact fun greatest => greatest.of_members (fun _ => List.mem_reverse.symm)

theorem accepted_is_latest (member : record ∈ acceptedRecords survivors) :
    LatestAmong survivors record :=
  greatest_reversed.mp (chosen_greatest (mem_latest_by_id.mp (mem_accepted.mp member)))

/-- Every latest record has an accepted one beside it. -/
theorem accepted_beside (greatest : LatestAmong survivors latest) :
    ∃ accepted ∈ acceptedRecords survivors, accepted.evidenceId = latest.evidenceId := by
  obtain ⟨accepted, member, same, _⟩ := (greatest_reversed.mpr greatest).chosen_beside
  exact ⟨accepted, mem_accepted.mpr (mem_latest_by_id.mpr member), same⟩

theorem accepted_ids_distinct : ((acceptedRecords survivors).map evidenceId).Nodup := by
  have permuted : (acceptedRecords survivors).Perm (latestById survivors) :=
    List.mergeSort_perm _ _
  exact (permuted.map evidenceId).nodup_iff.mpr latest_ids_distinct

/-- The accepted records come in the order of their keys, none twice. -/
theorem accepted_ascending :
    (acceptedRecords survivors).Pairwise (fun left right => left.sortKey < right.sortKey) := by
  have ordered : (acceptedRecords survivors).Pairwise
      (fun left right => left.sortKey ≤ right.sortKey) :=
    merge_sorted (fun _ _ => decide_eq_true_iff) _
  have distinct := List.pairwise_map.mp (@accepted_ids_distinct survivors)
  refine (ordered.and distinct).imp (fun both => lt_of_le_of_ne both.1 ?_)
  intro same
  exact both.2 (congrArg (fun key => (ofLex key).2) same)

/-- The ids that count are the ids of the survivors. -/
theorem mem_accepted_evidence {id : String} :
    id ∈ (acceptedRecords survivors).map evidenceId ↔ id ∈ survivors.map evidenceId := by
  have permuted : (acceptedRecords survivors).Perm (latestById survivors) :=
    List.mergeSort_perm _ _
  rw [(permuted.map evidenceId).mem_iff]
  constructor
  · intro inside
    obtain ⟨record, member, same⟩ := List.mem_map.mp inside
    have greatest := chosen_greatest (mem_latest_by_id.mp member)
    exact List.mem_map.mpr ⟨record, List.mem_reverse.mp greatest.member, same⟩
  · intro inside
    have present : id ∈ survivors.reverse.map evidenceId := by
      rwa [List.map_reverse, List.mem_reverse]
    obtain ⟨record, choice⟩ : ∃ record,
        chosenOf evidenceId collectedAt survivors.reverse id = some record :=
      chosen_of_some present
    have own := (chosen_of_greatest choice).1
    refine List.mem_map.mpr ⟨record, mem_latest_by_id.mpr (mem_chosen.mpr ?_), own⟩
    rw [own]
    exact choice

end Latest

/-! ### The strongest kind -/

section Strongest

variable {accepted : List EvidenceRecord} {kind : EvidenceKind}

theorem kind_outranks {best other : EvidenceRecord}
    (greatest : accepted.argmax EvidenceRecord.kindRank = some best)
    (member : other ∈ accepted) : other.kind.rank ≤ best.kind.rank := by
  have highest : other.kindRank ≤ best.kindRank := List.le_of_mem_argmax member greatest
  exact highest

/-- The strongest kind is held by an accepted record, and no other is stronger. -/
theorem strongest_kind_iff : strongestKind accepted = some kind ↔
    (∃ record ∈ accepted, record.kind = kind) ∧
      ∀ record ∈ accepted, record.kind.rank ≤ kind.rank := by
  rw [strongestKind, Option.map_eq_some_iff]
  constructor
  · rintro ⟨record, greatest, rfl⟩
    exact ⟨⟨record, List.argmax_mem greatest, rfl⟩,
      fun other member => kind_outranks greatest member⟩
  · rintro ⟨⟨record, member, rfl⟩, highest⟩
    cases greatest : accepted.argmax EvidenceRecord.kindRank with
    | none =>
        rw [List.argmax_eq_none] at greatest
        rw [greatest] at member
        cases member
    | some best =>
        refine ⟨best, rfl, EvidenceKind.rank_injective ?_⟩
        exact le_antisymm (highest best (List.argmax_mem greatest))
          (kind_outranks greatest member)

theorem strongest_kind_none : strongestKind accepted = none ↔ accepted = [] := by
  rw [strongestKind, Option.map_eq_none_iff, List.argmax_eq_none]

end Strongest

/-! ### Harmless ties -/

section Harmless

variable {survivors others : List EvidenceRecord} {kind : EvidenceKind}

theorem latest_of_members (members : ∀ record, record ∈ survivors ↔ record ∈ others) :
    LatestAmong survivors = LatestAmong others := by
  funext record
  apply propext
  constructor
  · exact fun greatest => greatest.of_members members
  · exact fun greatest => greatest.of_members (fun other => (members other).symm)

theorem harmless_of_members (members : ∀ record, record ∈ survivors ↔ record ∈ others)
    (harmless : TiesHarmless survivors) : TiesHarmless others := by
  have same := latest_of_members members
  constructor
  · rw [← same]
    exact harmless.strongest
  · rw [← same]
    exact harmless.ordered

/-- Ties that agree in kind are harmless. -/
theorem harmless_of_agreeing (agree : ∀ first second, LatestAmong survivors first →
    LatestAmong survivors second → first.evidenceId = second.evidenceId →
      first.kind = second.kind) : TiesHarmless survivors := by
  have keys : ∀ first second, LatestAmong survivors first → LatestAmong survivors second →
      first.evidenceId = second.evidenceId → first.sortKey = second.sortKey := by
    intro first second latest other same
    rw [EvidenceRecord.sortKey, EvidenceRecord.sortKey, same, agree first second latest other same]
  constructor
  · intro top latest
    refine ⟨top, latest, fun tied tiedLatest same => ?_⟩
    rw [agree tied top tiedLatest latest same]
  · intro first firstTied second secondTied latest tied otherLatest otherTied same otherSame _ before
    rw [keys firstTied first tied latest same, keys secondTied second otherTied otherLatest otherSame]
    exact before

/-- Some latest record of the first id comes before some of the second. -/
def ComesBefore (survivors : List EvidenceRecord) (id otherId : String) : Prop :=
  ∃ first second, LatestAmong survivors first ∧ LatestAmong survivors second ∧
    first.evidenceId = id ∧ second.evidenceId = otherId ∧ first.sortKey < second.sortKey

theorem accepted_ids_ordered :
    ((acceptedRecords survivors).map evidenceId).Pairwise (ComesBefore survivors) := by
  rw [List.pairwise_map]
  refine List.Pairwise.imp_of_mem ?_ accepted_ascending
  intro first second member otherMember precedes
  exact ⟨first, second, accepted_is_latest member, accepted_is_latest otherMember, rfl, rfl,
    precedes⟩

theorem same_accepted_evidence (harmless : TiesHarmless survivors)
    (members : ∀ record, record ∈ survivors ↔ record ∈ others) :
    (acceptedRecords survivors).map evidenceId = (acceptedRecords others).map evidenceId := by
  have permuted : ((acceptedRecords survivors).map evidenceId).Perm
      ((acceptedRecords others).map evidenceId) := by
    refine (List.perm_ext_iff_of_nodup accepted_ids_distinct accepted_ids_distinct).mpr ?_
    intro id
    rw [mem_accepted_evidence, mem_accepted_evidence, List.mem_map, List.mem_map]
    simp only [members]
  have otherOrdered := @accepted_ids_ordered others
  have sameBefore : ComesBefore others = ComesBefore survivors := by
    unfold ComesBefore
    rw [latest_of_members members]
  rw [sameBefore] at otherOrdered
  refine permuted.eq_of_pairwise ?_ accepted_ids_ordered otherOrdered
  rintro id otherId _ _ ⟨first, second, latest, otherLatest, rfl, rfl, before⟩
    ⟨secondTied, firstTied, otherTied, tied, same, sameToo, after⟩
  by_contra differs
  have kept := harmless.ordered first firstTied second secondTied latest tied otherLatest otherTied
    sameToo same differs before
  exact lt_asymm kept after

theorem strongest_at_least (harmless : TiesHarmless survivors)
    (members : ∀ record, record ∈ survivors ↔ record ∈ others)
    (strongest : strongestKind (acceptedRecords survivors) = some kind) :
    ∃ otherKind, strongestKind (acceptedRecords others) = some otherKind ∧
      kind.rank ≤ otherKind.rank := by
  obtain ⟨⟨top, member, rfl⟩, _⟩ := strongest_kind_iff.mp strongest
  obtain ⟨backed, latest, least⟩ := harmless.strongest top (accepted_is_latest member)
  obtain ⟨accepted, accepts, same⟩ := accepted_beside (latest.of_members members)
  have acceptedLatest := accepted_is_latest accepts
  rw [← latest_of_members members] at acceptedLatest
  have atLeast := least accepted acceptedLatest same
  cases found : strongestKind (acceptedRecords others) with
  | none =>
      rw [strongest_kind_none.mp found] at accepts
      cases accepts
  | some otherKind =>
      exact ⟨otherKind, rfl, atLeast.trans ((strongest_kind_iff.mp found).2 accepted accepts)⟩

theorem same_strongest (harmless : TiesHarmless survivors)
    (members : ∀ record, record ∈ survivors ↔ record ∈ others) :
    strongestKind (acceptedRecords survivors) = strongestKind (acceptedRecords others) := by
  have otherHarmless := harmless_of_members members harmless
  have back : ∀ record, record ∈ others ↔ record ∈ survivors := fun record => (members record).symm
  cases found : strongestKind (acceptedRecords survivors) with
  | some kind =>
      obtain ⟨otherKind, otherFound, atLeast⟩ := strongest_at_least harmless members found
      obtain ⟨again, foundAgain, atMost⟩ := strongest_at_least otherHarmless back otherFound
      have sameKind : kind = again := Option.some.inj (found.symm.trans foundAgain)
      rw [otherFound]
      exact congrArg some
        (EvidenceKind.rank_injective (le_antisymm atLeast (sameKind ▸ atMost)))
  | none =>
      cases otherFound : strongestKind (acceptedRecords others) with
      | none => rfl
      | some otherKind =>
          obtain ⟨kind, foundAgain, _⟩ := strongest_at_least otherHarmless back otherFound
          cases found.symm.trans foundAgain

end Harmless

/-! ### Records moved to the end -/

section Preferring

variable {prefers : EvidenceRecord → Bool} {survivors : List EvidenceRecord}
  {record best : EvidenceRecord}

/-- The preferred records at the end, the others before them in their order. -/
def preferring (prefers : EvidenceRecord → Bool) (records : List EvidenceRecord) :
    List EvidenceRecord :=
  records.filter (fun record => !prefers record) ++ records.filter prefers

theorem preferring_perm (records : List EvidenceRecord) :
    (preferring prefers records).Perm records :=
  List.perm_append_comm.trans (List.filter_append_perm prefers records)

/-- Of an id with a preferred latest record, a preferred one counts. -/
theorem preferred_accepted (member : record ∈ acceptedRecords (preferring prefers survivors))
    (greatest : LatestAmong survivors best) (preferred : prefers best = true)
    (same : best.evidenceId = record.evidenceId) : prefers record = true := by
  have choice := mem_chosen.mp (mem_latest_by_id.mp (mem_accepted.mp member))
  rw [← same, preferring, List.reverse_append] at choice
  have moved : LatestAmong ((survivors.filter prefers).reverse ++
      (survivors.filter (fun record => !prefers record)).reverse) best := by
    rw [← List.reverse_append]
    exact greatest_reversed.mpr (greatest.of_members (fun other =>
      (preferring_perm survivors).mem_iff.symm))
  have inFront : best ∈ (survivors.filter prefers).reverse :=
    List.mem_reverse.mpr (List.mem_filter.mpr ⟨greatest.member, preferred⟩)
  have front := chosen_in_front moved inFront choice
  exact (List.mem_filter.mp (List.mem_reverse.mp front)).2

/-- Records of the same ids in the order of their keys agree on which id comes first. -/
theorem order_read_off {left right : List EvidenceRecord}
    (ascending : left.Pairwise (fun record other => record.sortKey < other.sortKey))
    (otherAscending : right.Pairwise (fun record other => record.sortKey < other.sortKey))
    (ids : left.map evidenceId = right.map evidenceId) (distinct : (left.map evidenceId).Nodup)
    {first second firstThere secondThere : EvidenceRecord} (firstHere : first ∈ left)
    (secondHere : second ∈ left) (firstMember : firstThere ∈ right)
    (secondMember : secondThere ∈ right) (firstSame : firstThere.evidenceId = first.evidenceId)
    (secondSame : secondThere.evidenceId = second.evidenceId)
    (before : first.sortKey < second.sortKey) : firstThere.sortKey < secondThere.sortKey := by
  induction left generalizing right with
  | nil => cases firstHere
  | cons head rest ih =>
      cases right with
      | nil => cases ids
      | cons otherHead otherRest =>
          obtain ⟨headSame, restIds⟩ := List.cons.inj ids
          obtain ⟨leads, restAscending⟩ := List.pairwise_cons.mp ascending
          obtain ⟨otherLeads, otherRestAscending⟩ := List.pairwise_cons.mp otherAscending
          obtain ⟨fresh, restDistinct⟩ := List.nodup_cons.mp distinct
          have otherFresh : otherHead.evidenceId ∉ otherRest.map evidenceId := by
            rw [← restIds, ← headSame]
            exact fresh
          have secondLater : second ∈ rest := by
            rcases List.mem_cons.mp secondHere with isHead | later
            · rcases List.mem_cons.mp firstHere with same | later
              · rw [same, isHead] at before
                exact absurd before (lt_irrefl _)
              · rw [isHead] at before
                exact absurd before (lt_asymm (leads first later))
            · exact later
          have secondThereLater : secondThere ∈ otherRest := by
            rcases List.mem_cons.mp secondMember with isHead | later
            · have clash : second.evidenceId = head.evidenceId := by
                rw [← secondSame, isHead]
                exact headSame.symm
              exact absurd (clash ▸ List.mem_map_of_mem secondLater) fresh
            · exact later
          rcases List.mem_cons.mp firstHere with isHead | later
          · have firstIsHead : firstThere = otherHead := by
              rcases List.mem_cons.mp firstMember with same | later
              · exact same
              · have clash : firstThere.evidenceId = otherHead.evidenceId := by
                  rw [firstSame, isHead]
                  exact headSame
                exact absurd (clash ▸ List.mem_map_of_mem later) otherFresh
            rw [firstIsHead]
            exact otherLeads secondThere secondThereLater
          · have firstThereLater : firstThere ∈ otherRest := by
              rcases List.mem_cons.mp firstMember with isHead | inRest
              · have clash : first.evidenceId = head.evidenceId := by
                  rw [← firstSame, isHead]
                  exact headSame.symm
                exact absurd (clash ▸ List.mem_map_of_mem later) fresh
              · exact inRest
            exact ih restAscending otherRestAscending restIds restDistinct later secondLater
              firstThereLater secondThereLater

end Preferring

/-! ### The assessment -/

section Evaluation

variable (primitives : EvidencePrimitives) (policy : EvidencePolicy) (question : EvidenceQuestion)
  (records : List EvidenceRecord)

/-- Every permutation of the records is assessed alike. -/
def EvidenceOrderFree : Prop :=
  ∀ other : List EvidenceRecord, other.Perm records →
    evaluateEvidenceQuality primitives policy question other =
      evaluateEvidenceQuality primitives policy question records

section Order

variable {primitives policy question records} {other : List EvidenceRecord}

theorem evidence_evaluated (within : records.length ≤ policy.maxRecordsConsidered) :
    evaluateEvidenceQuality primitives policy question records =
      .ok (assessEvidence primitives policy question
        (acceptedRecords (evidenceSurvivors primitives policy question records))
        (evidenceRejections primitives policy question records)) :=
  if_neg (not_lt.mpr within)

/-- The assessment reads the accepted ids, the strongest kind and the rejections. -/
theorem assessed_alike {accepted otherAccepted : List EvidenceRecord}
    {rejections otherRejections : List String}
    (ids : accepted.map evidenceId = otherAccepted.map evidenceId)
    (strongest : strongestKind accepted = strongestKind otherAccepted)
    (rejected : rejections.Perm otherRejections) :
    assessEvidence primitives policy question accepted rejections =
      assessEvidence primitives policy question otherAccepted otherRejections := by
  have nobody : accepted = [] ↔ otherAccepted = [] := by
    rw [← @List.map_eq_nil_iff _ _ evidenceId, ids, List.map_eq_nil_iff]
  have silent : rejections = [] ↔ otherRejections = [] := by
    constructor
    · intro none
      rw [none] at rejected
      exact rejected.nil_eq.symm
    · intro none
      rw [none] at rejected
      exact rejected.eq_nil
  have reasons : ∀ further others : List String,
      pySorted (rejections ++ further ++ others) = pySorted (otherRejections ++ further ++ others) :=
    fun further others => py_sorted_of_perm ((rejected.append_right further).append_right others)
  simp only [assessEvidence, ids, strongest, nobody, silent, reasons]

theorem order_free_of_harmless
    (harmless : TiesHarmless (evidenceSurvivors primitives policy question records))
    (within : records.length ≤ policy.maxRecordsConsidered) (permuted : other.Perm records) :
    evaluateEvidenceQuality primitives policy question other =
      evaluateEvidenceQuality primitives policy question records := by
  have members : ∀ record, record ∈ evidenceSurvivors primitives policy question records ↔
      record ∈ evidenceSurvivors primitives policy question other :=
    fun record => (permuted.filter _).mem_iff.symm
  rw [evidence_evaluated within, evidence_evaluated (permuted.length_eq.trans_le within)]
  congr 1
  apply assessed_alike
  · exact (same_accepted_evidence harmless members).symm
  · exact (same_strongest harmless members).symm
  · exact permuted.filterMap _

/-- Moving records to the end moves their survivors to the end. -/
theorem preferring_survivors (prefers : EvidenceRecord → Bool) :
    evidenceSurvivors primitives policy question (preferring prefers records) =
      preferring prefers (evidenceSurvivors primitives policy question records) := by
  rw [evidenceSurvivors, preferring, preferring, List.filter_append, evidenceSurvivors,
    List.filter_comm, List.filter_comm _ prefers]

/-- Two permutations that are assessed alike accept the same ids in the same order and the
same strongest kind. -/
theorem preferred_alike (free : EvidenceOrderFree primitives policy question records)
    (within : records.length ≤ policy.maxRecordsConsidered)
    (prefers otherwise : EvidenceRecord → Bool) :
    (acceptedRecords (preferring prefers (evidenceSurvivors primitives policy question
        records))).map evidenceId =
      (acceptedRecords (preferring otherwise (evidenceSurvivors primitives policy question
        records))).map evidenceId ∧
    strongestKind (acceptedRecords (preferring prefers (evidenceSurvivors primitives policy
        question records))) =
      strongestKind (acceptedRecords (preferring otherwise (evidenceSurvivors primitives policy
        question records))) := by
  have evaluated : ∀ prefers : EvidenceRecord → Bool,
      evaluateEvidenceQuality primitives policy question (preferring prefers records) =
        .ok (assessEvidence primitives policy question
          (acceptedRecords (preferring prefers (evidenceSurvivors primitives policy question
            records)))
          (evidenceRejections primitives policy question (preferring prefers records))) := by
    intro prefers
    have length := (@preferring_perm prefers records).length_eq
    rw [evidence_evaluated (length.trans_le within), preferring_survivors]
  have first := free (preferring prefers records) (preferring_perm records)
  have second := free (preferring otherwise records) (preferring_perm records)
  have alike := first.trans second.symm
  rw [evaluated prefers, evaluated otherwise] at alike
  have assessments := Except.ok.inj alike
  exact ⟨congrArg EvidenceAssessment.acceptedEvidenceIds assessments,
    congrArg EvidenceAssessment.strongestKind assessments⟩

section Necessity

variable {survivors : List EvidenceRecord} {record : EvidenceRecord}

/-- No latest record of the id is weaker. -/
def WeakestTied (survivors : List EvidenceRecord) (record : EvidenceRecord) : Prop :=
  ∀ tied, LatestAmong survivors tied → tied.evidenceId = record.evidenceId →
    record.kind.rank ≤ tied.kind.rank

theorem weakest_beside (latest : LatestAmong survivors record) :
    ∃ weakest, LatestAmong survivors weakest ∧ weakest.evidenceId = record.evidenceId ∧
      WeakestTied survivors weakest := by
  induction rank : record.kind.rank using Nat.strong_induction_on generalizing record with
  | _ rank ih =>
      by_cases weakest : WeakestTied survivors record
      · exact ⟨record, latest, rfl, weakest⟩
      · unfold WeakestTied at weakest
        push Not at weakest
        obtain ⟨tied, tiedLatest, same, weaker⟩ := weakest
        obtain ⟨best, bestLatest, bestSame, least⟩ := ih _ (rank ▸ weaker) tiedLatest rfl
        exact ⟨best, bestLatest, bestSame.trans same, least⟩

/-- The id and the kind of a record, as a preference. -/
def likeness (model : EvidenceRecord) (record : EvidenceRecord) : Bool :=
  decide (record.evidenceId = model.evidenceId ∧ record.kind = model.kind)

theorem like_same_key {model : EvidenceRecord} (like : likeness model record = true) :
    record.sortKey = model.sortKey := by
  obtain ⟨ids, kinds⟩ := of_decide_eq_true like
  rw [EvidenceRecord.sortKey, EvidenceRecord.sortKey, ids, kinds]

theorem likeness_self : likeness record record = true :=
  decide_eq_true ⟨rfl, rfl⟩

end Necessity

theorem strongest_of_order_free (free : EvidenceOrderFree primitives policy question records)
    (within : records.length ≤ policy.maxRecordsConsidered) {top : EvidenceRecord}
    (latest : LatestAmong (evidenceSurvivors primitives policy question records) top) :
    ∃ backed, LatestAmong (evidenceSurvivors primitives policy question records) backed ∧
      ∀ tied, LatestAmong (evidenceSurvivors primitives policy question records) tied →
        tied.evidenceId = backed.evidenceId → top.kind.rank ≤ tied.kind.rank := by
  classical
  generalize kept : evidenceSurvivors primitives policy question records = survivors at latest ⊢
  have alike := (preferred_alike free within (likeness top)
    (fun record => decide (WeakestTied survivors record))).2
  rw [kept] at alike
  have unmoved : ∀ {prefers : EvidenceRecord → Bool} {record : EvidenceRecord},
      record ∈ acceptedRecords (preferring prefers survivors) → LatestAmong survivors record :=
    fun member => (accepted_is_latest member).of_members
      (fun _ => (preferring_perm survivors).mem_iff)
  -- with the top record preferred the strongest kind is at least the top's
  obtain ⟨accepted, member, same⟩ := accepted_beside (latest.of_members
    (fun _ => (@preferring_perm (likeness top) survivors).mem_iff.symm))
  have preferred := preferred_accepted member latest likeness_self same.symm
  have kinds : accepted.kind = top.kind := (of_decide_eq_true preferred).2
  cases found : strongestKind (acceptedRecords (preferring (likeness top) survivors)) with
  | none =>
      rw [strongest_kind_none.mp found] at member
      cases member
  | some kind =>
      have high := (strongest_kind_iff.mp found).2 accepted member
      -- with the weakest preferred some id is still that strong, in all of its records
      rw [found] at alike
      obtain ⟨⟨backed, backs, kindSame⟩, _⟩ := strongest_kind_iff.mp alike.symm
      have backedLatest := unmoved backs
      obtain ⟨weakest, weakestLatest, sameId, least⟩ := weakest_beside backedLatest
      have weak := preferred_accepted backs weakestLatest (decide_eq_true least) sameId
      refine ⟨backed, backedLatest, fun tied tiedLatest tiedSame => ?_⟩
      have atMost := of_decide_eq_true weak tied tiedLatest tiedSame
      rw [kindSame] at atMost
      rw [kinds] at high
      exact high.trans atMost

theorem ordered_of_order_free (free : EvidenceOrderFree primitives policy question records)
    (within : records.length ≤ policy.maxRecordsConsidered)
    {first firstTied second secondTied : EvidenceRecord}
    (latest : LatestAmong (evidenceSurvivors primitives policy question records) first)
    (tied : LatestAmong (evidenceSurvivors primitives policy question records) firstTied)
    (otherLatest : LatestAmong (evidenceSurvivors primitives policy question records) second)
    (otherTied : LatestAmong (evidenceSurvivors primitives policy question records) secondTied)
    (same : firstTied.evidenceId = first.evidenceId)
    (otherSame : secondTied.evidenceId = second.evidenceId)
    (differ : first.evidenceId ≠ second.evidenceId) (before : first.sortKey < second.sortKey) :
    firstTied.sortKey < secondTied.sortKey := by
  generalize kept : evidenceSurvivors primitives policy question records = survivors
    at latest tied otherLatest otherTied
  -- a permutation in which two given records of two ids count
  have picked : ∀ left right : EvidenceRecord, LatestAmong survivors left →
      LatestAmong survivors right → left.evidenceId ≠ right.evidenceId →
      ∃ chosenLeft ∈ acceptedRecords (preferring
          (fun record => likeness left record || likeness right record) survivors),
        ∃ chosenRight ∈ acceptedRecords (preferring
          (fun record => likeness left record || likeness right record) survivors),
          chosenLeft.evidenceId = left.evidenceId ∧ chosenRight.evidenceId = right.evidenceId ∧
            chosenLeft.sortKey = left.sortKey ∧ chosenRight.sortKey = right.sortKey := by
    intro left right leftLatest rightLatest apart
    have moved : ∀ {record : EvidenceRecord}, LatestAmong survivors record →
        LatestAmong (preferring (fun record => likeness left record || likeness right record)
          survivors) record :=
      fun greatest => greatest.of_members (fun _ => (preferring_perm survivors).mem_iff.symm)
    obtain ⟨chosenLeft, leftMember, leftSame⟩ := accepted_beside (moved leftLatest)
    obtain ⟨chosenRight, rightMember, rightSame⟩ := accepted_beside (moved rightLatest)
    have leftLike := preferred_accepted leftMember leftLatest
      (Bool.or_eq_true_iff.mpr (Or.inl likeness_self)) leftSame.symm
    have rightLike := preferred_accepted rightMember rightLatest
      (Bool.or_eq_true_iff.mpr (Or.inr likeness_self)) rightSame.symm
    refine ⟨chosenLeft, leftMember, chosenRight, rightMember, leftSame, rightSame, ?_, ?_⟩
    · rcases Bool.or_eq_true_iff.mp leftLike with like | like
      · exact like_same_key like
      · exact absurd (leftSame.symm.trans (of_decide_eq_true like).1) apart
    · rcases Bool.or_eq_true_iff.mp rightLike with like | like
      · exact absurd ((of_decide_eq_true like).1.symm.trans rightSame) apart
      · exact like_same_key like
  obtain ⟨here, hereMember, there, thereMember, hereId, thereId, hereKey, thereKey⟩ :=
    picked first second latest otherLatest differ
  obtain ⟨hereTied, hereTiedMember, thereTied, thereTiedMember, hereTiedId, thereTiedId,
    hereTiedKey, thereTiedKey⟩ := picked firstTied secondTied tied otherTied (by
      rw [same, otherSame]
      exact differ)
  have ids := (preferred_alike free within
    (fun record => likeness first record || likeness second record)
    (fun record => likeness firstTied record || likeness secondTied record)).1
  rw [kept] at ids
  rw [← hereTiedKey, ← thereTiedKey]
  apply order_read_off accepted_ascending accepted_ascending ids accepted_ids_distinct hereMember
    thereMember hereTiedMember thereTiedMember
  · rw [hereTiedId, hereId, same]
  · rw [thereTiedId, thereId, otherSame]
  · rw [hereKey, thereKey]
    exact before

end Order

/-- Evidence within the limit is assessed alike in every order exactly when exchanging tied
latest records changes neither the strongest kind nor the order of the ids. -/
theorem evidence_order_free_iff (within : records.length ≤ policy.maxRecordsConsidered) :
    EvidenceOrderFree primitives policy question records ↔
      TiesHarmless (evidenceSurvivors primitives policy question records) := by
  constructor
  · intro free
    exact ⟨fun _ => strongest_of_order_free free within,
      fun _ _ _ _ => ordered_of_order_free free within⟩
  · intro harmless other permuted
    exact order_free_of_harmless harmless within permuted

end Evaluation

/-! ### Two records of one id -/

namespace Observations

open KarmaSakshi.Domain.Officers (manifestHash bundleHash)

/-- The digest of the state that is expected after the transfer. -/
def settled : String := bundleHash

def reobserved : EvidenceRecord where
  schemaVersion := "1.0"
  evidenceId := "ev-1"
  manifestHash := manifestHash
  kind := .adapterReobserve
  sourceSystem := "bank"
  observationMethod := "statement"
  observedAt := 1767225600000000
  collectedAt := 1767225600000000
  afterStateDigest := some settled
  matchedExpected := some true
  sourcePrincipalId := none
  detail := none
  evidenceIdBounded := by decide
  sourceSystemBounded := by decide
  observationMethodBounded := by decide
  manifestHashShape := Officers.manifest_hash_digest
  collectedAfterObserved := le_refl _

/-- The same observation out of an independent ledger, under the same id. -/
def ledgered : EvidenceRecord := { reobserved with kind := .independentLedger }

/-- It under an id of its own. -/
def confirmed : EvidenceRecord :=
  { ledgered with
    evidenceId := "ev-2"
    evidenceIdBounded := by decide }

def policy : EvidencePolicy where
  policyId := "default-evidence"
  policyVersion := "1.0"
  maxAgeSeconds := 300
  minKind := .adapterReobserve
  requireSourceSystem := true
  requireDigest := true
  rejectUnattributed := true
  maxRecordsConsidered := 32
  policyIdBounded := by decide
  policyVersionDotted := Officers.first_version_dotted
  maxAgeBounded := by decide
  recordsBounded := Officers.considered_bounded

def primitives : EvidencePrimitives where
  policyDigest := fun _ =>
    "sha256:b13334f9783ba1323b319ca079da49fbbce6d256b06fe40fbf43d16476393c9b"
  setDigest := fun _ => "sha256:dfe5a616d6117f3f9080ee2edf2c4d164fbc1962567f8121162ff93c80de0d67"
  wholeSeconds := fun micros => micros / microsPerSecond

def question : EvidenceQuestion where
  manifestHash := manifestHash
  expectedAfterStateDigest := some settled
  now := 1767225660000000

theorem records_survive {record : EvidenceRecord} (known : record ∈ [reobserved, ledgered, confirmed]) :
    evidenceRejectReason primitives policy question record = none := by
  rcases List.mem_cons.mp known with rfl | rest
  · rfl
  · rcases List.mem_cons.mp rest with rfl | last
    · rfl
    · rw [List.mem_singleton.mp last]
      rfl

/-- All the records were collected at one moment, so each is a latest one. -/
theorem records_are_latest {records : List EvidenceRecord} {record : EvidenceRecord}
    (known : records ⊆ [reobserved, ledgered, confirmed]) (member : record ∈ records) :
    LatestAmong (evidenceSurvivors primitives policy question records) record := by
  have moments : ∀ other ∈ [reobserved, ledgered, confirmed],
      other.collectedAt = 1767225600000000 := by
    intro other inside
    rcases List.mem_cons.mp inside with rfl | rest
    · rfl
    · rcases List.mem_cons.mp rest with rfl | last
      · rfl
      · rw [List.mem_singleton.mp last]
        rfl
  refine ⟨List.mem_filter.mpr ⟨member, decide_eq_true (records_survive (known member))⟩, ?_⟩
  intro other inside _
  rw [moments other (known (List.mem_filter.mp inside).1), moments record (known member)]

end Observations

/-- Which of the two records of `ev-1` comes last decides the strongest kind. -/
theorem tied_records_depend_on_order :
    ¬ EvidenceOrderFree Observations.primitives Observations.policy Observations.question
      [Observations.reobserved, Observations.ledgered] := by
  intro free
  have known : [Observations.reobserved, Observations.ledgered] ⊆
      [Observations.reobserved, Observations.ledgered, Observations.confirmed] :=
    List.subset_append_left _ [Observations.confirmed]
  have latest := Observations.records_are_latest known
    (List.mem_cons_of_mem Observations.reobserved List.mem_cons_self)
  obtain ⟨backed, backs, least⟩ := strongest_of_order_free free (by decide) latest
  have ids : ∀ record ∈ [Observations.reobserved, Observations.ledgered],
      record.evidenceId = "ev-1" := by
    intro record member
    rcases List.mem_cons.mp member with rfl | last
    · rfl
    · rw [List.mem_singleton.mp last]
      rfl
  have atLeast := least Observations.reobserved
    (Observations.records_are_latest known List.mem_cons_self)
    (ids backed (List.mem_filter.mp backs.member).1).symm
  exact absurd atLeast (by decide)

/-- Records under ids of their own are assessed alike in either order. -/
theorem separate_records_order_free :
    EvidenceOrderFree Observations.primitives Observations.policy Observations.question
      [Observations.reobserved, Observations.confirmed] := by
  apply (evidence_order_free_iff Observations.primitives Observations.policy
    Observations.question _ (by decide)).mpr
  apply harmless_of_agreeing
  intro first second latest other same
  have member := (List.mem_filter.mp latest.member).1
  have otherMember := (List.mem_filter.mp other.member).1
  rcases List.mem_cons.mp member with rfl | isSecond
  · rcases List.mem_cons.mp otherMember with rfl | otherSecond
    · rfl
    · rw [List.mem_singleton.mp otherSecond] at same
      exact absurd same (by decide)
  · rcases List.mem_cons.mp otherMember with rfl | otherSecond
    · rw [List.mem_singleton.mp isSecond] at same
      exact absurd same (by decide)
    · rw [List.mem_singleton.mp isSecond, List.mem_singleton.mp otherSecond]

end KarmaSakshi.Guarantees
