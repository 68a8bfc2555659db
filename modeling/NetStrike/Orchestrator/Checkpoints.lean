import Mathlib.Data.Finset.Card
import Mathlib.Data.List.Sort
import NetStrike.Foundation.Text
import NetStrike.Shared.Exceptions

/-!
# Checkpoint evaluators

`evaluate_identity_triage` of `orchestrator/checkpoints.py`. The evaluator removes duplicate pairs
of an artifact id and a source, and counts and lists what is left. So it counts artifacts as long as
no artifact is cited under two sources, and `triage_iff_oneSource` says that this is exactly when it
does. `casefold` and `isalnum` are Python's.
-/

set_option autoImplicit false

namespace NetStrike.Orchestrator

open NetStrike.Foundation NetStrike.Shared

/-- `EvidenceReference`; `__post_init__` refuses blanks. -/
structure EvidenceReference where
  reference_id : String
  source : String
  id_given : ¬ Blank reference_id
  source_given : ¬ Blank source

/-- `IdentityTriageSubmission`. -/
structure IdentityTriageSubmission where
  affected_identity : String
  classification : String
  evidence : List EvidenceReference

/-- `CheckpointEvaluation`. -/
structure CheckpointEvaluation where
  passed : Bool
  reason : String
  evidence_ids : List String
  checks : List (String × Bool)
deriving DecidableEq

/-- The default `accepted_classifications`. -/
def acceptedClassifications : List String :=
  ["account compromise", "likely account compromise", "identity compromise",
    "likely identity compromise"]

namespace Triage

variable (casefold : String → String) (isalnum : Char → Bool)

/-- `_normalized`. -/
def normalized (value : String) : List Char := (casefold value).toList.filter isalnum

/-- The artifact that a reference cites. -/
def artifact (item : EvidenceReference) : String := strip item.reference_id

/-- The source of a reference, whatever its case. -/
def source (item : EvidenceReference) : String := casefold (strip item.source)

/-- The pair that a reference stands for. -/
def pair (item : EvidenceReference) : String × String := (artifact item, source casefold item)

/-- `unique_evidence`. -/
def uniqueEvidence (evidence : List EvidenceReference) : List (String × String) :=
  (evidence.map (pair casefold)).dedup

/-- The order of tuples. -/
def pairLe (a b : String × String) : Prop := a.1 < b.1 ∨ a.1 = b.1 ∧ a.2 ≤ b.2

instance : DecidableRel pairLe := fun _ _ => inferInstanceAs (Decidable (_ ∨ _))

/-- `evidence_ids`. -/
def evidenceIds (evidence : List EvidenceReference) : List String :=
  ((uniqueEvidence casefold evidence).insertionSort pairLe).map Prod.fst

/-- `sources`. -/
def sources (evidence : List EvidenceReference) : List String :=
  ((uniqueEvidence casefold evidence).map Prod.snd).dedup

/-- The check of the identity. -/
def identityCorrect (expected_identity : String) (submission : IdentityTriageSubmission) : Bool :=
  normalized casefold isalnum expected_identity <:+:
    normalized casefold isalnum submission.affected_identity

/-- The check of the classification. -/
def classificationSupported (accepted_classifications : List String)
    (submission : IdentityTriageSubmission) : Bool :=
  normalized casefold isalnum submission.classification ∈
    accepted_classifications.map (normalized casefold isalnum)

/-- `checks`. -/
def checks (expected_identity : String) (accepted_classifications : List String)
    (required_artifacts required_sources : Int) (submission : IdentityTriageSubmission) :
    List (String × Bool) :=
  [("identity_correct", identityCorrect casefold isalnum expected_identity submission),
    ("classification_supported",
      classificationSupported casefold isalnum accepted_classifications submission),
    ("artifact_count_met",
      decide (required_artifacts ≤ (uniqueEvidence casefold submission.evidence).length)),
    ("source_diversity_met",
      decide (required_sources ≤ (sources casefold submission.evidence).length))]

/-- `evaluate_identity_triage`. -/
def evaluate (expected_identity : String) (accepted_classifications : List String)
    (required_artifacts required_sources : Int) (submission : IdentityTriageSubmission) :
    Except Exn CheckpointEvaluation :=
  if required_artifacts < 1 ∨ required_sources < 1 then
    .error (.of .ValueError "checkpoint thresholds must be positive")
  else
    let checks := checks casefold isalnum expected_identity accepted_classifications
      required_artifacts required_sources submission
    let failed_checks := checks.filterMap fun check => if check.2 then none else some check.1
    .ok ⟨checks.all Prod.snd,
      if checks.all Prod.snd then
        "Correct identity, classification, artifact count, and source diversity"
      else "Missing checkpoint requirements: " ++ ", ".intercalate failed_checks,
      evidenceIds casefold submission.evidence, checks⟩

/-! ## What is counted -/

/-- The different artifacts that are cited. -/
def citedArtifacts (evidence : List EvidenceReference) : Finset String :=
  (evidence.map artifact).toFinset

/-- The different sources that are cited. -/
def citedSources (evidence : List EvidenceReference) : Finset String :=
  (evidence.map (source casefold)).toFinset

/-- No artifact is cited under two sources. -/
def OneSource (evidence : List EvidenceReference) : Prop :=
  ∀ a ∈ evidence, ∀ b ∈ evidence, artifact a = artifact b → source casefold a = source casefold b

theorem nodup_uniqueEvidence (evidence : List EvidenceReference) :
    (uniqueEvidence casefold evidence).Nodup :=
  List.nodup_dedup _

theorem nodup_sources (evidence : List EvidenceReference) : (sources casefold evidence).Nodup :=
  List.nodup_dedup _

theorem mem_uniqueEvidence {evidence : List EvidenceReference} {p : String × String} :
    p ∈ uniqueEvidence casefold evidence ↔ ∃ item ∈ evidence, pair casefold item = p := by
  unfold uniqueEvidence
  rw [List.mem_dedup, List.mem_map]

theorem length_sources (evidence : List EvidenceReference) :
    (sources casefold evidence).length = (citedSources casefold evidence).card := by
  have hsame : (sources casefold evidence).toFinset = citedSources casefold evidence := by
    ext s
    simp only [sources, citedSources, List.mem_toFinset, List.mem_dedup, List.mem_map,
      mem_uniqueEvidence]
    constructor
    · rintro ⟨-, ⟨item, hitem, rfl⟩, rfl⟩
      exact ⟨item, hitem, rfl⟩
    · rintro ⟨item, hitem, rfl⟩
      exact ⟨_, ⟨item, hitem, rfl⟩, rfl⟩
  rw [← hsame, List.toFinset_card_of_nodup (nodup_sources casefold evidence)]

theorem artifacts_eq_image (evidence : List EvidenceReference) :
    citedArtifacts evidence = (uniqueEvidence casefold evidence).toFinset.image Prod.fst := by
  ext id
  simp only [citedArtifacts, List.mem_toFinset, List.mem_map, Finset.mem_image, mem_uniqueEvidence]
  constructor
  · rintro ⟨item, hitem, rfl⟩
    exact ⟨_, ⟨item, hitem, rfl⟩, rfl⟩
  · rintro ⟨-, ⟨item, hitem, rfl⟩, rfl⟩
    exact ⟨item, hitem, rfl⟩

theorem length_uniqueEvidence (evidence : List EvidenceReference) :
    (uniqueEvidence casefold evidence).length =
      (uniqueEvidence casefold evidence).toFinset.card :=
  (List.toFinset_card_of_nodup (nodup_uniqueEvidence casefold evidence)).symm

/-- The pairs of a submission are determined by their artifacts exactly under `OneSource`. -/
theorem injOn_iff_oneSource (evidence : List EvidenceReference) :
    Set.InjOn Prod.fst {p | p ∈ uniqueEvidence casefold evidence} ↔
      OneSource casefold evidence := by
  constructor
  · intro h a ha b hb hid
    have ha' := (mem_uniqueEvidence casefold).mpr ⟨a, ha, rfl⟩
    have hb' := (mem_uniqueEvidence casefold).mpr ⟨b, hb, rfl⟩
    exact congrArg Prod.snd (h ha' hb' hid)
  · intro h p hp q hq hid
    obtain ⟨a, ha, rfl⟩ := (mem_uniqueEvidence casefold).mp hp
    obtain ⟨b, hb, rfl⟩ := (mem_uniqueEvidence casefold).mp hq
    exact Prod.ext hid (h a ha b hb hid)

/-- The pairs are as many as the artifacts exactly under `OneSource`. -/
theorem length_eq_card_iff (evidence : List EvidenceReference) :
    (uniqueEvidence casefold evidence).length = (citedArtifacts evidence).card ↔
      OneSource casefold evidence := by
  rw [length_uniqueEvidence, artifacts_eq_image casefold, eq_comm, Finset.card_image_iff,
    ← injOn_iff_oneSource]
  simp only [List.coe_toFinset]

/-- The listed ids are distinct exactly under `OneSource`. -/
theorem nodup_evidenceIds_iff (evidence : List EvidenceReference) :
    (evidenceIds casefold evidence).Nodup ↔ OneSource casefold evidence := by
  unfold evidenceIds
  rw [((List.perm_insertionSort _ _).map Prod.fst).nodup_iff,
    List.nodup_map_iff_inj_on (nodup_uniqueEvidence casefold evidence), ← injOn_iff_oneSource]
  exact ⟨fun h p hp q hq => h p hp q hq, fun h p hp q hq => h hp hq⟩

/-! ## More evidence -/

theorem uniqueEvidence_subset {evidence evidence' : List EvidenceReference}
    (h : evidence ⊆ evidence') :
    uniqueEvidence casefold evidence ⊆ uniqueEvidence casefold evidence' := by
  intro p hp
  obtain ⟨item, hitem, rfl⟩ := (mem_uniqueEvidence casefold).mp hp
  exact (mem_uniqueEvidence casefold).mpr ⟨item, h hitem, rfl⟩

theorem length_uniqueEvidence_le {evidence evidence' : List EvidenceReference}
    (h : evidence ⊆ evidence') :
    (uniqueEvidence casefold evidence).length ≤ (uniqueEvidence casefold evidence').length :=
  ((nodup_uniqueEvidence casefold evidence).subperm (uniqueEvidence_subset casefold h)).length_le

theorem length_sources_le {evidence evidence' : List EvidenceReference}
    (h : evidence ⊆ evidence') :
    (sources casefold evidence).length ≤ (sources casefold evidence').length := by
  refine ((nodup_sources casefold evidence).subperm fun s hs => ?_).length_le
  unfold sources at hs ⊢
  rw [List.mem_dedup] at hs ⊢
  exact List.map_subset _ (uniqueEvidence_subset casefold h) hs

/-! ## The evaluator -/

section Evaluate

variable (expected_identity : String) (accepted_classifications : List String)
  {required_artifacts required_sources : Int}

/-- The submission passes. -/
def Passes (required_artifacts required_sources : Int) (submission : IdentityTriageSubmission) :
    Prop :=
  ∃ result, evaluate casefold isalnum expected_identity accepted_classifications required_artifacts
    required_sources submission = .ok result ∧ result.passed = true

theorem passes_iff (hartifacts : 1 ≤ required_artifacts) (hsources : 1 ≤ required_sources)
    (submission : IdentityTriageSubmission) :
    Passes casefold isalnum expected_identity accepted_classifications required_artifacts
        required_sources submission ↔
      identityCorrect casefold isalnum expected_identity submission = true ∧
        classificationSupported casefold isalnum accepted_classifications submission = true ∧
        required_artifacts ≤ (uniqueEvidence casefold submission.evidence).length ∧
        required_sources ≤ (sources casefold submission.evidence).length := by
  unfold Passes evaluate
  rw [if_neg (by omega)]
  constructor
  · rintro ⟨result, hresult, hpassed⟩
    injection hresult with hresult
    rw [← hresult] at hpassed
    simpa [checks] using hpassed
  · intro h
    exact ⟨_, rfl, by simpa [checks] using h⟩

/-- Evidence that is added never makes a passing submission fail. -/
theorem passes_mono (hartifacts : 1 ≤ required_artifacts) (hsources : 1 ≤ required_sources)
    {submission : IdentityTriageSubmission} {evidence : List EvidenceReference}
    (hmore : submission.evidence ⊆ evidence)
    (h : Passes casefold isalnum expected_identity accepted_classifications required_artifacts
      required_sources submission) :
    Passes casefold isalnum expected_identity accepted_classifications required_artifacts
      required_sources { submission with evidence := evidence } := by
  rw [passes_iff _ _ _ _ hartifacts hsources] at h ⊢
  obtain ⟨hidentity, hclassification, hcount, hdiverse⟩ := h
  have hpairs := length_uniqueEvidence_le casefold hmore
  have hsources' := length_sources_le casefold hmore
  exact ⟨hidentity, hclassification, hcount.trans (by exact_mod_cast hpairs),
    hdiverse.trans (by exact_mod_cast hsources')⟩

/-- What DP1 promises of a submission: a pass is backed by enough different artifacts and sources,
the count that is compared is the number of different artifacts, the listed ids are distinct, and
more evidence never turns a pass into a miss. -/
structure CountsArtifacts (required_artifacts required_sources : Int)
    (submission : IdentityTriageSubmission) : Prop where
  sound : Passes casefold isalnum expected_identity accepted_classifications required_artifacts
      required_sources submission →
    identityCorrect casefold isalnum expected_identity submission = true ∧
      classificationSupported casefold isalnum accepted_classifications submission = true ∧
      required_artifacts ≤ (citedArtifacts submission.evidence).card ∧
      required_sources ≤ (citedSources casefold submission.evidence).card
  counted : (uniqueEvidence casefold submission.evidence).length =
    (citedArtifacts submission.evidence).card
  distinct : ∀ result, evaluate casefold isalnum expected_identity accepted_classifications
    required_artifacts required_sources submission = .ok result → result.evidence_ids.Nodup
  monotone : ∀ evidence, submission.evidence ⊆ evidence →
    Passes casefold isalnum expected_identity accepted_classifications required_artifacts
      required_sources submission →
    Passes casefold isalnum expected_identity accepted_classifications required_artifacts
      required_sources { submission with evidence := evidence }

/-- For positive thresholds the evaluator counts artifacts exactly when no artifact is cited under
two sources. -/
theorem triage_iff_oneSource (hartifacts : 1 ≤ required_artifacts)
    (hsources : 1 ≤ required_sources) (submission : IdentityTriageSubmission) :
    CountsArtifacts casefold isalnum expected_identity accepted_classifications required_artifacts
      required_sources submission ↔ OneSource casefold submission.evidence := by
  constructor
  · exact fun h => (length_eq_card_iff casefold _).mp h.counted
  · intro h
    have hcounted := (length_eq_card_iff casefold _).mpr h
    refine ⟨fun hpass => ?_, hcounted, fun result hresult => ?_, fun evidence hmore hpass => ?_⟩
    · rw [passes_iff _ _ _ _ hartifacts hsources, hcounted, length_sources] at hpass
      exact hpass
    · unfold evaluate at hresult
      rw [if_neg (by omega)] at hresult
      injection hresult with hresult
      rw [← hresult]
      exact (nodup_evidenceIds_iff casefold _).mpr h
    · exact passes_mono _ _ _ _ hartifacts hsources hmore hpass

end Evaluate

/-! ## One artifact under three sources -/

/-- `casefold` on ASCII. -/
def asciiCasefold (s : String) : String := s.map Char.toLower

/-- `isalnum` on ASCII. -/
def asciiIsalnum (c : Char) : Bool := c.isAlphanum

/-- A reference from a source. -/
def reference (reference_id source : String) (id_given : ¬ Blank reference_id)
    (source_given : ¬ Blank source) : EvidenceReference :=
  ⟨reference_id, source, id_given, source_given⟩

/-- One artifact cited under the given sources. -/
def citedUnder (first second third : EvidenceReference) : IdentityTriageSubmission :=
  ⟨"sarah", "identity compromise", [first, second, third]⟩

/-- The login cited from the identity provider, the help desk and the endpoint. -/
def sampleSubmission : IdentityTriageSubmission :=
  citedUnder (reference "login-001" "identity" (by decide) (by decide))
    (reference "login-001" "helpdesk" (by decide) (by decide))
    (reference " login-001" "endpoint" (by decide) (by decide))

theorem triage_iff_oneSource_sample :
    (1 : Int) ≤ 3 ∧ (1 : Int) ≤ 2 ∧
      (CountsArtifacts asciiCasefold asciiIsalnum "sarah" acceptedClassifications 3 2
        sampleSubmission ↔ OneSource asciiCasefold sampleSubmission.evidence) :=
  ⟨by decide, by decide, triage_iff_oneSource _ _ _ _ (by decide) (by decide) _⟩

/-- One artifact cited under three sources passes for three artifacts. -/
theorem one_artifact_passes_for_three :
    Passes asciiCasefold asciiIsalnum "sarah" acceptedClassifications 3 2 sampleSubmission ∧
      (citedArtifacts sampleSubmission.evidence).card = 1 ∧
      ¬ CountsArtifacts asciiCasefold asciiIsalnum "sarah" acceptedClassifications 3 2
        sampleSubmission := by
  have hone : (citedArtifacts sampleSubmission.evidence).card = 1 := by decide
  have hthree : (uniqueEvidence asciiCasefold sampleSubmission.evidence).length = 3 := by
    decide +kernel
  refine ⟨?_, hone, fun h => ?_⟩
  · rw [passes_iff _ _ _ _ (by decide) (by decide)]
    decide +kernel
  · have hcounted := h.counted
    rw [hone, hthree] at hcounted
    exact absurd hcounted (by decide)

end Triage

end NetStrike.Orchestrator
