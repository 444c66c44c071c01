import Understudy.Proofs.Http.Fields
import Understudy.Response

/-!
# Headers on the way out

Which headers of a response its message carries.  The status and the body always arrive as they
are, a status that no message can carry aside.  The names are sent in lower case, and each with its
values in the order of the response.  But one header that no message can hold takes all others with
it: the headers that could be sent are sent exactly if there is no such header or nothing else to
send.  All of this is about what a header says, not about how long it is or how many there are.
-/

namespace Understudy

namespace Response

/-- The header can be sent: its name is a token, its value is one that a field can carry, and it is
not worked out anew for the message. -/
def isRepresentable (pair : String × String) : Bool :=
  Http.isToken pair.1 && Http.isFieldValue pair.2 &&
    !(Http.sameName pair.1 "content-length" || Http.sameName pair.1 "transfer-encoding")

/-- The header is one to send, but no message can hold it. -/
def isIllegal (pair : String × String) : Bool :=
  !isRecomputed pair.1 && !isSendable pair

theorem fields_eq_filter_pairs (response : Response) :
    response.fields = response.headers.pairs.filter fun pair => !isRecomputed pair.1 :=
  (response.headers.filter_pairs fun name => !isRecomputed name).symm

theorem isRepresentable_eq (pair : String × String) :
    isRepresentable pair = (isSendable pair && !isRecomputed pair.1) :=
  rfl

/-- Headers can all be sent exactly if none is illegal. -/
theorem all_isSendable_fields (response : Response) :
    response.fields.all isSendable = !response.headers.pairs.any isIllegal := by
  rw [fields_eq_filter_pairs, List.all_filter, List.not_any_eq_all_not]
  congr 1
  funext pair
  rw [isIllegal, Bool.not_and, Bool.not_not, Bool.not_not]

/-- A message carries all headers that can be sent, or none if there is an illegal one. -/
theorem fields_toMessage (response : Response) :
    response.toMessage.fields =
      if response.headers.pairs.any isIllegal then []
      else (response.headers.pairs.filter isRepresentable).map fun field =>
        (Text.asciiLower field.1, field.2) := by
  rw [toMessage, all_isSendable_fields]
  cases illegal : response.headers.pairs.any isIllegal with
  | true => rfl
  | false =>
      have kept : response.fields = response.headers.pairs.filter isRepresentable := by
        rw [fields_eq_filter_pairs]
        refine List.filter_congr fun pair member => ?_
        have legal := List.any_eq_false.mp illegal pair member
        rw [isIllegal] at legal
        rw [isRepresentable_eq]
        grind
      rw [kept]
      rfl

/-- A header has the same fate under all spellings of its name. -/
theorem isRecomputed_congr {first second : String} (same : Http.sameName first second = true) :
    isRecomputed first = isRecomputed second := by
  have lower : Text.asciiLower first = Text.asciiLower second := beq_iff_eq.mp same
  unfold isRecomputed Http.sameName Text.sameIgnoringAsciiCase
  rw [lower]

/-- If all headers are legal, all values under a name are sent that is not worked out anew. -/
theorem valuesOf_toMessage {response : Response} {name : String}
    (sendable : ∀ pair ∈ response.headers.pairs, isSendable pair = true)
    (kept : isRecomputed name = false) :
    Http.valuesOf response.toMessage.fields name = Http.valuesOf response.headers.pairs name := by
  have legal : response.headers.pairs.any isIllegal = false := by
    rw [List.any_eq_false]
    intro pair member
    rw [isIllegal, sendable pair member, Bool.not_true, Bool.and_false]
    exact Bool.false_ne_true
  have filtered : Http.valuesOf (response.headers.pairs.filter isRepresentable) name =
      Http.valuesOf response.headers.pairs name := by
    refine (Http.valuesOf_filter _ fun pair member same => ?_).trans (if_pos rfl)
    rw [isRepresentable_eq, sendable pair member, isRecomputed_congr same, kept]
    rfl
  rw [fields_toMessage, legal, ← filtered]
  exact (Http.valuesOf_map_asciiLower _ id name).trans (List.map_id _)

/-- Fields with legal names and legal values that are UTF-8 can be sent after they are decoded. -/
theorem isSendable_of_mem_decodedFields {fields : List (String × ByteArray)}
    (names : ∀ field ∈ fields, Http.isToken field.1 = true)
    (octets : ∀ field ∈ fields, field.2.data.toList.all Http.isValueOctet = true)
    (texts : ∀ field ∈ fields, ∃ text, Text.decode? field.2 = some text) {line : String × String}
    (member : line ∈ Http.decodedFields fields) : isSendable line = true := by
  obtain ⟨field, arrived, rfl⟩ := List.mem_map.mp member
  obtain ⟨text, decoded⟩ := texts field arrived
  have name : Http.isToken (Text.asciiLower field.1) = true :=
    Http.isToken_asciiLower (names field arrived)
  have value : Http.isFieldValue (Text.decodeLossy field.2) = true := by
    rw [Http.isFieldValue, Text.encode_decodeLossy decoded]
    exact octets field arrived
  rw [isSendable, name, value]
  rfl

end Response

/-- The message for a response has its status, if it lies between 100 and 999, and 500 otherwise,
and its body.  Its fields have names in lower case.  Under every name it has exactly the headers of
the response that can be sent, in their order, if no header is illegal or none can be sent.  In all
other cases it misses some, since one illegal header leaves the message without any. -/
theorem headers_survive_iff_none_is_illegal (response : Response) :
    let message := response.toMessage
    let pairs := response.headers.pairs
    message.status =
      (if 100 ≤ response.status ∧ response.status ≤ 999 then response.status else 500) ∧
    message.body = response.body.octets ∧
    (∀ field ∈ message.fields, Text.asciiLower field.1 = field.1) ∧
    ((∀ name, Http.valuesOf message.fields name =
        Http.valuesOf (pairs.filter Response.isRepresentable) name) ↔
      (∀ pair ∈ pairs, Response.isIllegal pair = false) ∨
        ∀ pair ∈ pairs, Response.isRepresentable pair = false) ∧
    ((∃ pair ∈ pairs, Response.isIllegal pair = true) → message.fields = []) := by
  intro message pairs
  have fields : message.fields = if pairs.any Response.isIllegal then [] else
      (pairs.filter Response.isRepresentable).map fun field =>
        (Text.asciiLower field.1, field.2) :=
    Response.fields_toMessage response
  have someIllegal : (∃ pair ∈ pairs, Response.isIllegal pair = true) ↔
      pairs.any Response.isIllegal = true :=
    List.any_eq_true.symm
  have noneIllegal : (∀ pair ∈ pairs, Response.isIllegal pair = false) ↔
      pairs.any Response.isIllegal = false := by
    simp only [List.any_eq_false, Bool.not_eq_true]
  have noneRepresentable : (∀ pair ∈ pairs, Response.isRepresentable pair = false) ↔
      pairs.filter Response.isRepresentable = [] := by
    simp only [List.filter_eq_nil_iff, Bool.not_eq_true]
  rw [fields, someIllegal, noneIllegal, noneRepresentable]
  cases pairs.any Response.isIllegal with
  | true =>
      refine ⟨rfl, rfl, nofun, ?_, fun _ => rfl⟩
      rw [or_iff_right (by decide), ← Http.forall_valuesOf_eq_nil_iff]
      exact forall_congr' fun _ => eq_comm
  | false =>
      refine ⟨rfl, rfl, ?names, ⟨fun _ => .inl rfl, fun _ => ?survive⟩, nofun⟩
      case names =>
        intro field member
        obtain ⟨source, -, rfl⟩ := List.mem_map.mp member
        exact Text.asciiLower_asciiLower source.1
      case survive =>
        intro name
        exact (Http.valuesOf_map_asciiLower _ id name).trans (List.map_id _)

/-- One header with a name that is no token takes a good one with it. -/
theorem illegal_header_takes_good_one_with_it :
    let response := ((Response.new 200).withHeader "X-Good" "yes").withHeader "bad name" "1"
    Http.valuesOf (response.headers.pairs.filter Response.isRepresentable) "x-good" = ["yes"] ∧
      Http.valuesOf response.toMessage.fields "x-good" = [] := by
  decide

end Understudy
