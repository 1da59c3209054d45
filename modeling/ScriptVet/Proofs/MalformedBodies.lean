import ScriptVet.Proofs.Agreement
import ScriptVet.Proofs.ByteTexts
import ScriptVet.Proofs.JsonLimits

/-!
# Bodies that are no JSON object

A body that says that it is JSON may be none for four reasons: its bytes are no text, the reader of JSON gives up on the
text, the text is no JSON, or it is JSON but no object. Only the last two are answered as faults of the request. Bytes
that are no text, and texts that are given up on, are answered as failures of the service.
-/

namespace ScriptVet

namespace Json

/-- The reader gives up on a text for a cause that is no problem of its syntax. -/
def GivesUpOn (depth : Nat) (t : Text) : Prop :=
  (∃ n, document depth t = .error (.tooManyDigits n)) ∨ ∃ c, document depth t = .error (.tooDeep c)

variable {depth : Nat}

/-- Only long texts are given up on. -/
theorem GivesUpOn.min_lt_length {t : Text} (h : GivesUpOn depth t) : min depth Number.maxIntegerDigits < t.length := by
  rcases h with ⟨n, hn⟩ | ⟨c, hc⟩
  · obtain ⟨hlarge, hle⟩ := document_needs hn
    exact min_lt_of_right_lt (by omega)
  · exact min_lt_of_left_lt (document_needs hc)

/-- Bytes that are a text are read as the text is. -/
theorem parseBytes_of_decode {body : List UInt8} {t : Text} (h : (Encoding.detect body).decode body = .ok t) :
    (∀ v, document depth t = .ok v → parseBytes depth body = .ok v) ∧
      ∀ e, document depth t = .error e → parseBytes depth body = .error (.unreadable t e) := by
  unfold parseBytes
  rw [h]
  dsimp only
  exact ⟨fun v hv => by rw [hv], fun e he => by rw [he]⟩

/-- Bytes that are no text are not read. -/
theorem parseBytes_of_not_isText (depth : Nat) {body : List UInt8} (h : ¬ (Encoding.detect body).IsText body) :
    ∃ e, parseBytes depth body = .error (.undecodable e) := by
  rw [← Encoding.exists_decode_eq_ok_iff] at h
  unfold parseBytes
  cases hdecode : (Encoding.detect body).decode body with
  | ok t => exact absurd ⟨t, hdecode⟩ h
  | error e => exact ⟨e, rfl⟩

end Json

/-- A body that is not read gives no payload. -/
theorem Payload.ofJson_of_error {depth : Nat} {body : List UInt8} (hne : body ≠ []) {e : Json.BytesError}
    (h : Json.parseBytes depth body = .error e) : ofJson depth body = .error (.ofBytes e) := by
  have hempty : body.isEmpty = false := by simpa using hne
  rw [ofJson, hempty, h]
  rfl

/-- A value that is no object gives no payload. -/
theorem Payload.ofJson_of_not_object {depth : Nat} {body : List UInt8} (hne : body ≠ []) {v : Json}
    (h : Json.parseBytes depth body = .ok v) (hv : ∀ members, v ≠ .obj members) :
    ofJson depth body = .error .notObject := by
  have hempty : body.isEmpty = false := by simpa using hne
  rw [ofJson, hempty, h]
  cases v with
  | obj members => exact absurd rfl (hv members)
  | _ => rfl

namespace Service

/-- **What a JSON body that is no object comes to.** Take a service in any state and a request that is admitted, says
that it is JSON, and brings a body that is not empty and within the limit. A JSON value that is no object, and a text
that is no JSON, are faults of the request, with status 400. Bytes that are no text in the encoding that they show, and
texts that the reader gives up on, are answered as failures of the service, with status 500. There are no other cases,
and a text that is given up on is longer than containers may be deep or integers may have digits. The client gets these
replies if the path of its request can be told. -/
theorem validate_json_body (s : Service) (now : Float) (r : Request) (limit : Nat) (body : List UInt8)
    (hadmitted : (s.limiter.check now r.clientKey).2 = .ok ()) (hlimit : s.limits.bodyLimit = .ok limit)
    (hcarries : r.Carries limit body) (hjson : r.DeclaresJson) (hne : body ≠ []) :
    let encoding := Json.Encoding.detect body
    let reply := (s.validate now r).2.reply
    (∀ t v, encoding.decode body = .ok t → Json.document s.basis.bodyDepth t = .ok v → (∀ members, v ≠ .obj members) →
        reply = delivered s.basis r.toHead ⟨400, Response.invalidRequest.toJson⟩) ∧
      (∀ t problem position, encoding.decode body = .ok t →
        Json.document s.basis.bodyDepth t = .error (.malformed problem position) →
        reply = delivered s.basis r.toHead ⟨400, Response.malformedJson.toJson⟩) ∧
      (∀ t, encoding.decode body = .ok t → Json.GivesUpOn s.basis.bodyDepth t →
        reply = delivered s.basis r.toHead ⟨500, Response.serverError.toJson⟩ ∧
          min s.basis.bodyDepth Number.maxIntegerDigits < t.length) ∧
      (¬ encoding.IsText body → reply = delivered s.basis r.toHead ⟨500, Response.serverError.toJson⟩) ∧
      (encoding.IsText body → ∃ t, encoding.decode body = .ok t ∧
        ((∃ v, Json.document s.basis.bodyDepth t = .ok v) ∨
          (∃ problem position, Json.document s.basis.bodyDepth t = .error (.malformed problem position)) ∨
          Json.GivesUpOn s.basis.bodyDepth t)) := by
  intro encoding reply
  -- Each way to fail is refused for its cause, so that only the causes have to be found.
  have hrefused : ∀ e, Payload.ofJson s.basis.bodyDepth body = .error e →
      reply = delivered s.basis r.toHead (refuse e).1 :=
    fun e he => validate_reply_of_error hadmitted hlimit hcarries hjson he
  have hunread : ∀ t e, encoding.decode body = .ok t → Json.document s.basis.bodyDepth t = .error e →
      reply = delivered s.basis r.toHead (refuse (.ofBytes (.unreadable t e))).1 :=
    fun t e ht he => hrefused _ (Payload.ofJson_of_error hne ((Json.parseBytes_of_decode ht).2 e he))
  refine ⟨?_, ?_, ?_, ?_, ?_⟩
  · intro t v ht hv hobject
    exact hrefused _ (Payload.ofJson_of_not_object hne ((Json.parseBytes_of_decode ht).1 v hv) hobject)
  · intro t problem position ht hmalformed
    exact hunread t _ ht hmalformed
  · intro t ht hgivesUp
    refine ⟨?_, hgivesUp.min_lt_length⟩
    rcases hgivesUp with ⟨n, hn⟩ | ⟨c, hc⟩
    · exact hunread t _ ht hn
    · exact hunread t _ ht hc
  · intro hnot
    obtain ⟨e, he⟩ := Json.parseBytes_of_not_isText s.basis.bodyDepth hnot
    exact hrefused _ (Payload.ofJson_of_error hne he)
  · intro htext
    obtain ⟨t, ht⟩ := Json.Encoding.exists_decode_eq_ok_iff.mpr htext
    refine ⟨t, ht, ?_⟩
    cases hdocument : Json.document s.basis.bodyDepth t with
    | ok v => exact Or.inl ⟨v, rfl⟩
    | error e =>
      cases e with
      | malformed problem position => exact Or.inr (Or.inl ⟨problem, position, rfl⟩)
      | tooManyDigits n => exact Or.inr (Or.inr (Or.inl ⟨n, hdocument⟩))
      | tooDeep c => exact Or.inr (Or.inr (Or.inr ⟨c, hdocument⟩))

/-! ## A byte that is no text -/

/-- A request whose body is a byte that stands in no UTF-8 text. -/
def strayByteRequest : Request :=
  { headers := [(Text.ofString "content-type", Text.ofString "application/json")], messages := [.chunk [0xFF]] }

private lemma strayByte_not_isText : ¬ (Json.Encoding.detect [0xFF]).IsText [0xFF] := by
  rw [← Json.Encoding.exists_decode_eq_ok_iff]
  rintro ⟨t, ht⟩
  cases ht

theorem validate_json_body_strayByte :
    ((start .builtin {} {} 0).validate 0 strayByteRequest).2.reply = .ok ⟨500, Response.serverError.toJson⟩ := by
  have hcarries : strayByteRequest.Carries 61440 [0xFF] := carries_of_jsonHead rfl rfl (by decide)
  obtain ⟨-, -, -, hnot, -⟩ := validate_json_body (start .builtin {} {} 0) 0 strayByteRequest 61440 [0xFF]
    (Limiter.check_new (by decide) _ _ _ _) (by decide +kernel) hcarries (declaresJson_of_jsonHead rfl) (by decide)
  exact (hnot strayByte_not_isText).trans (delivered_jsonHead _)

end Service

end ScriptVet
