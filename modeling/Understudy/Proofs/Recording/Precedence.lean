import Understudy.Proofs.Resolution.Irrelevance
import Understudy.Recording.Synthesis

/-!
# Precedence over recordings

A recording has the last of all priorities and no probability, whatever exchange and template it
comes from.  So no draw is made for it, and since the priority decides first among perfect
matches, it never answers in the strict mode where a mapping of a lower priority matches
perfectly: the answer and the draws are those of the registry without recordings.
-/

namespace Understudy

/-- The mapping is the recording of some exchange, with or without a template. -/
def Mapping.IsRecording (mapping : Mapping) : Prop :=
  ∃ id recordedAt template settings request response,
    mapping = synthesize id recordedAt template settings request response

namespace Mapping.IsRecording

variable {mapping : Mapping}

theorem priority_eq (recording : mapping.IsRecording) : mapping.priority = recordingPriority := by
  obtain ⟨id, recordedAt, template, settings, request, response, rfl⟩ := recording
  rfl

theorem probability_eq (recording : mapping.IsRecording) : mapping.probability = none := by
  obtain ⟨id, recordedAt, template, settings, request, response, rfl⟩ := recording
  rfl

/-- No draw is made for a recording. -/
theorem takesDraw_eq (recording : mapping.IsRecording) (now : Instant) :
    mapping.takesDraw now = false := by
  rw [takesDraw, recording.probability_eq, Option.any_none, Bool.and_false]

end Mapping.IsRecording

/-- Of two candidates the one that ranks first as a perfect match has no higher priority. -/
theorem Candidate.priority_le {winner other : Candidate}
    (keyLe : winner.perfectKey ≤ other.perfectKey) :
    winner.mapping.priority ≤ other.mapping.priority :=
  Prod.Lex.monotone_fst _ _ keyLe

section

variable {settings : MatchingSettings} {mappings written : List Mapping} {store : ScenarioStore}
variable {draws : Draws} {request : Request} {now : Instant} {winner : Candidate}

/-- A recording does not answer where a mapping of a lower priority matches perfectly. -/
theorem not_isRecording_of_matched (strict : settings.allowPartial = false)
    {position : Nat} {other : Candidate}
    (contends : Contends store draws request now mappings position other)
    (perfect : other.result.isPerfect = true)
    (below : other.mapping.priority < Mapping.recordingPriority)
    (matched : (resolveAt settings ⟨mappings⟩ store draws request now).resolution.matched =
      some winner) : ¬winner.mapping.IsRecording := by
  intro recording
  have leads := (matched_eq_some_iff_of_strict _ _ _ _ _ strict winner).mp matched
  have priorityLe := Candidate.priority_le (leads.key_le contends perfect)
  rw [recording.priority_eq] at priorityLe
  exact absurd below (Int.not_lt.mpr priorityLe)

/-- However many recordings stand at whatever positions of a registry, in the strict mode a mapping
of a lower priority that answers without them answers beside them, with the same result, and the
same draws are made. -/
theorem recordings_never_shadow_written_mappings (strict : settings.allowPartial = false)
    (thins : Thins Mapping.IsRecording mappings written)
    (matched : (resolveAt settings ⟨written⟩ store draws request now).resolution.matched =
      some winner)
    (below : winner.mapping.priority < Mapping.recordingPriority) :
    (resolveAt settings ⟨mappings⟩ store draws request now).resolution.matched = some winner ∧
      (resolveAt settings ⟨mappings⟩ store draws request now).draws =
        (resolveAt settings ⟨written⟩ store draws request now).draws := by
  have noDraw : ∀ mapping : Mapping, mapping.IsRecording → mapping.takesDraw now = false :=
    fun mapping recording => recording.takesDraw_eq now
  obtain ⟨position, contends, perfect, -⟩ :=
    (matched_eq_some_iff_of_strict _ _ _ _ _ strict winner).mp matched
  obtain ⟨place, contendsBeside⟩ := thins.exists_contends noDraw contends
  have unshadowed := matched_of_thins settings store draws request now thins noDraw
    fun leader leads => not_isRecording_of_matched strict contendsBeside perfect below leads
  exact ⟨unshadowed.symm.trans matched, (thins.sample noDraw draws).2.symm⟩

end

/-- A mapping without conditions that takes part in every other request on average. -/
def Mapping.sampled : Mapping :=
  { Mapping.new (.ofNat 1) .empty with probability := some 0.5 }

/-- The recording of a GET request, with the sampled mapping as its template if that is asked
for. -/
def Mapping.recordedGet (id : Nat) (useDefined : Bool) : Mapping :=
  synthesize (.ofNat id) .epoch (some .sampled)
    { RecordingSettings.off with useDefined := useDefined } (Request.new "GET" "/a")
    (Response.new 200)

/-- Between two recordings of the request, whose mean scores are higher, the sampled mapping
answers, and one draw is made. -/
theorem sampled_mapping_answers_beside_recordings :
    (default : MatchingSettings).allowPartial = false ∧
      Thins Mapping.IsRecording [.recordedGet 2 false, .sampled, .recordedGet 3 true]
        [.sampled] ∧
      (resolveAt default ⟨[.recordedGet 2 false, .sampled, .recordedGet 3 true]⟩ .empty
          (.replaying [0.25]) (Request.new "GET" "/a") .epoch).resolution.matched =
        some ⟨.sampled, ⟨[]⟩⟩ ∧
      (resolveAt default ⟨[.recordedGet 2 false, .sampled, .recordedGet 3 true]⟩ .empty
          (.replaying [0.25]) (Request.new "GET" "/a") .epoch).draws.made = 1 := by
  have strict : (default : MatchingSettings).allowPartial = false := rfl
  have recorded : ∀ id useDefined, (Mapping.recordedGet id useDefined).IsRecording :=
    fun id useDefined => ⟨_, _, _, _, _, _, rfl⟩
  have thins : Thins Mapping.IsRecording
      [.recordedGet 2 false, .sampled, .recordedGet 3 true] [.sampled] :=
    .drop (recorded 2 false) (.keep _ (.drop (recorded 3 true) .nil))
  have sampledIn : Mapping.sampled.SampledIn 0.25 := by
    intro probability present
    cases present
    decide
  have matched : (resolveAt default ⟨[.sampled]⟩ .empty (.replaying [0.25])
      (Request.new "GET" "/a") .epoch).resolution.matched = some ⟨.sampled, ⟨[]⟩⟩ := by
    refine (matched_eq_some_iff_of_strict _ _ _ _ _ strict _).mpr
      ⟨0, ⟨rfl, rfl, sampledIn, rfl⟩, rfl, ?_⟩
    rintro place ⟨owner, result⟩ ⟨registered, _, _, evaluated⟩ _
    match place with
    | 0 =>
        obtain rfl : _ = owner := Option.some.inj registered
        have resultEq : ⟨[]⟩ = result := Except.ok.inj evaluated
        rw [← resultEq]
    | _ + 1 => cases registered
  obtain ⟨beside, draws⟩ :=
    recordings_never_shadow_written_mappings strict thins matched (by decide)
  refine ⟨strict, thins, beside, ?_⟩
  rw [draws]
  decide

end Understudy
