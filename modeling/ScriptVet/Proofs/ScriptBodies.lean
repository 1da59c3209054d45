import Mathlib.Algebra.Ring.Nat
import ScriptVet.Proofs.Agreement
import ScriptVet.Proofs.CompactJson

/-!
# Scripts that fit into a body

The ceiling on scripts counts UTF-16 units, and the limit on bodies counts bytes. A script is posted as the compact
object with the field `script`, so each of its characters takes `bodyWidth` bytes, up to six for one unit, and the
room that the limit leaves above the ceiling is soon used up. `validate_scriptBody` says which scripts are turned away
for that, and `forall_scriptBody_fits_iff` up to which size none is.
-/

namespace ScriptVet

/-! ## Widths of characters -/

/-- How many bytes a character takes in a compact body: two with a letter after a backslash, six with four digits, and
else those of its UTF-8 form. -/
def bodyWidth (c : Char) : Nat :=
  if c ∈ ['"', '\\', '\n', '\r', '\t', '\x0c', '\x08'] then 2
  else if c.toNat < 0x20 then 6
  else if c.toNat < 0x80 then 1
  else if c.toNat < 0x800 then 2
  else if c.toNat < 0x10000 then 3
  else 4

/-- A code point has one to four bytes. -/
lemma Utf8.length_encodePoint (n : Nat) :
    (encodePoint n).length = if n < 0x80 then 1 else if n < 0x800 then 2 else if n < 0x10000 then 3 else 4 := by
  unfold encodePoint
  split_ifs <;> rfl

/-- A character takes its width in the body. -/
lemma length_encode_compactChar (c : Char) : (Utf8.encode (Json.compactChar c)).length = bodyWidth c := by
  have hcontrol : ∀ n < 0x20, (Utf8.encode (Json.compactChar (Char.ofNat n))).length = bodyWidth (Char.ofNat n) := by
    decide
  by_cases hlow : c.toNat < 0x20
  · have h := hcontrol c.toNat hlow
    rwa [Char.ofNat_toNat] at h
  by_cases hquote : c = '"'
  · rw [hquote]; rfl
  by_cases hbackslash : c = '\\'
  · rw [hbackslash]; rfl
  have hraw : Json.compactChar c = [c] := if_neg (by simp [hquote, hbackslash, hlow])
  have hnone : c ∉ ['"', '\\', '\n', '\r', '\t', '\x0c', '\x08'] := by
    simp only [List.mem_cons, List.not_mem_nil, or_false, not_or]
    refine ⟨hquote, hbackslash, ?_, ?_, ?_, ?_, ?_⟩ <;>
      · rintro rfl
        exact hlow (by decide)
  rw [hraw, bodyWidth, if_neg hnone, if_neg hlow, ← Utf8.length_encodePoint]
  simp [Utf8.encode]

/-- A character takes at most six bytes for each of its units. -/
lemma bodyWidth_le (c : Char) : bodyWidth c ≤ 6 * (CodePoint.scalar c).units16 := by
  unfold bodyWidth CodePoint.units16
  dsimp only
  split_ifs <;> omega

/-- A printable ASCII character that is not escaped takes one byte for its one unit. -/
lemma bodyWidth_le_of_plain {c : Char} (h : 0x20 ≤ c.toNat ∧ c.toNat < 0x80 ∧ c ≠ '"' ∧ c ≠ '\\') :
    bodyWidth c ≤ 1 * (CodePoint.scalar c).units16 := by
  obtain ⟨hlow, hhigh, hquote, hbackslash⟩ := h
  have hall : ∀ n < 0x80, 0x20 ≤ n → Char.ofNat n ≠ '"' → Char.ofNat n ≠ '\\' → bodyWidth (Char.ofNat n) = 1 := by
    decide
  have hwidth := hall c.toNat hhigh hlow
  rw [Char.ofNat_toNat] at hwidth
  have hunits : (CodePoint.scalar c).units16 = 1 := if_pos (by omega)
  rw [hwidth hquote hbackslash, hunits]

/-! ## Bodies -/

/-- The body that posts a script. -/
def scriptBody (script : List Char) : List UInt8 := Utf8.encode (Json.compactObject "script".toList script)

/-- Characters take the sum of their widths. -/
lemma length_encode_flatMap_compactChar (cs : List Char) :
    (Utf8.encode (cs.flatMap Json.compactChar)).length = (cs.map bodyWidth).sum := by
  induction cs with
  | nil => rfl
  | cons c cs ih =>
    have hsplit : Utf8.encode ((c :: cs).flatMap Json.compactChar) =
        Utf8.encode (Json.compactChar c) ++ Utf8.encode (cs.flatMap Json.compactChar) := by
      simp [Utf8.encode]
    rw [hsplit, List.length_append, ih, length_encode_compactChar, List.map_cons, List.sum_cons]

/-- Thirteen bytes stand around the script. -/
lemma length_scriptBody (script : List Char) : (scriptBody script).length = 13 + (script.map bodyWidth).sum := by
  have hobject : Json.compactObject "script".toList script =
      "\x7b\"script\":\"".toList ++ (script.flatMap Json.compactChar ++ "\"\x7d".toList) := by
    unfold Json.compactObject
    rw [show Json.compactQuote "script".toList = "\"script\"".toList by decide]
    simp [Json.compactQuote]
  have hfront : (Utf8.encode "\x7b\"script\":\"".toList).length = 11 := by decide
  have hback : (Utf8.encode "\"\x7d".toList).length = 2 := by decide
  have hsplit : ∀ cs ds, Utf8.encode (cs ++ ds) = Utf8.encode cs ++ Utf8.encode ds := fun cs ds => List.flatMap_append
  rw [scriptBody, hobject, hsplit, hsplit, List.length_append, List.length_append, length_encode_flatMap_compactChar]
  omega

private lemma Text.units16_cons (p : CodePoint) (t : Text) : units16 (p :: t) = p.units16 + units16 t := by
  have hfrom : ∀ (u : Text) (n : Nat), u.foldl (fun n p => n + p.units16) n = n + units16 u := by
    intro u
    induction u with
    | nil => intro n; rfl
    | cons q u ih =>
      intro n
      unfold units16
      rw [List.foldl_cons, List.foldl_cons, ih, ih]
      omega
  unfold units16
  rw [List.foldl_cons, hfrom, Nat.zero_add]
  rfl

/-- Characters with at most `k` bytes for each unit. -/
lemma sum_bodyWidth_le {k : Nat} {script : List Char}
    (h : ∀ c ∈ script, bodyWidth c ≤ k * (CodePoint.scalar c).units16) :
    (script.map bodyWidth).sum ≤ k * (Text.ofChars script).units16 := by
  induction script with
  | nil => simp
  | cons c cs ih =>
    have hc := h c List.mem_cons_self
    have hcs := ih fun d hd => h d (List.mem_cons_of_mem c hd)
    have hunits : (Text.ofChars (c :: cs)).units16 = (CodePoint.scalar c).units16 + (Text.ofChars cs).units16 :=
      Text.units16_cons _ _
    rw [hunits, List.map_cons, List.sum_cons, Nat.mul_add]
    omega

private lemma units16_replicate (n : Nat) (c : Char) :
    (Text.ofChars (List.replicate n c)).units16 = n * (CodePoint.scalar c).units16 := by
  induction n with
  | zero => simp [Text.units16]
  | succ n ih =>
    have hcons : (Text.ofChars (List.replicate (n + 1) c)).units16 =
        (CodePoint.scalar c).units16 + (Text.ofChars (List.replicate n c)).units16 := Text.units16_cons _ _
    rw [hcons, ih, Nat.succ_mul, Nat.add_comm]

private lemma length_scriptBody_replicate (n : Nat) (c : Char) :
    (scriptBody (List.replicate n c)).length = 13 + n * bodyWidth c := by
  rw [length_scriptBody, List.map_replicate, List.sum_replicate_nat]

/-- **Up to which size every script fits.** The body of every script with `n` units is within the limit of 61440 bytes
exactly when `n` is at most 10237, about a fifth of the ceiling on scripts. -/
theorem forall_scriptBody_fits_iff (n : Nat) :
    (∀ script, (Text.ofChars script).units16 = n → (scriptBody script).length ≤ 61440) ↔ n ≤ 10237 := by
  constructor
  · intro h
    -- A control character takes six bytes for its one unit.
    have hunit : (CodePoint.scalar '\x01').units16 = 1 := by decide
    have hwidth : bodyWidth '\x01' = 6 := by decide
    have hlength := h (List.replicate n '\x01') (by rw [units16_replicate, hunit, Nat.mul_one])
    rw [length_scriptBody_replicate, hwidth] at hlength
    omega
  · intro hn script hunits
    have hsum := sum_bodyWidth_le fun c (_ : c ∈ script) => bodyWidth_le c
    rw [length_scriptBody]
    omega

/-! ## Posting a script -/

/-- The request posts a body: in chunks, as JSON, and with its length, if one is declared. -/
structure Request.Posts (r : Request) (body : List UInt8) : Prop where
  brings : r.Brings body
  declared : ∀ t, r.header? "content-length" = some t → Number.Writes t body.length
  json : r.DeclaresJson

namespace Request.Posts

variable {r : Request} {body : List UInt8} {limit : Nat}

/-- A body that is posted and fits is carried. -/
lemma carries (h : r.Posts body) (hfits : body.length ≤ limit) : r.Carries limit body where
  chunks := h.brings
  within := hfits
  declared t ht := ⟨body.length, Number.ofText_eq_ok_iff.mpr (h.declared t ht), by omega⟩

/-- A body over the limit is refused, by its declared length or by its chunks. -/
lemma readBody_of_lt (h : r.Posts body) (hover : limit < body.length) :
    (r.readBody limit).result = .error .tooLarge := by
  cases ht : r.header? "content-length" with
  | some t => rw [readBody_of_declaresOver ⟨t, _, ht, h.declared t ht, by omega⟩]
  | none =>
    have hwithin : r.DeclaresWithin limit := by
      intro t h
      rw [ht] at h
      cases h
    exact readBody_of_receivesOver hwithin (h.brings.receivesOver hover)

end Request.Posts

/-- The message can be read off what is sent. -/
lemma Response.message_eq_of_toJson_eq {a b : Response} (h : a.toJson = b.toJson) : a.message = b.message := by
  simp only [toJson, Json.record, List.map_cons, List.map_nil, Json.obj.injEq, List.cons.injEq, Prod.mk.injEq,
    Json.str.injEq] at h
  tauto

/-- What answers to payloads say. -/
lemma Checking.message_of_payload {v : Validator} {depth : Nat} {limits : Limits} {members : List (Text × Json)}
    {a : Logged Answer} (h : payload v.checker depth limits members = .ok a) :
    a.value.response.message ∈
      ["Validation failed", "Script validation passed", "Script validation failed"].map Text.ofString := by
  unfold payload at h
  split at h
  · cases h
  · cases h
    exact List.mem_cons_self
  · next s _ =>
    cases h
    have hmessage := (Validator.respond_spec (v.stagedErrors s.script s.language.name)).2.2.2
    rw [← Validator.validate_value_eq] at hmessage
    have hvalue : (submission v.checker s).value.response = (v.validate s.script s.language.name).value := rfl
    rw [hvalue, hmessage]
    split
    · simp
    · simp

namespace Service

/-- The reply to a request whose body is too large. -/
def tooLargeReply : Reply := ⟨400, (Response.error ["Request body too large"] "Invalid request format").toJson⟩

/-- What is replied to a body that is too large. -/
lemma validate_reply_of_tooLarge {s : Service} {now : Float} {r : Request} {limit : Nat}
    (hadmitted : (s.limiter.check now r.clientKey).2 = .ok ()) (hlimit : s.limits.bodyLimit = .ok limit)
    (hread : (r.readBody limit).result = .error .tooLarge) :
    (s.validate now r).2.reply = delivered s.basis r.toHead tooLargeReply := by
  rw [validate_reply_of_admitted hadmitted, admitted_of_refused hlimit (Payload.read_of_bodyError hread _ _)]
  rfl

/-- No payload is answered as if its body were too large. -/
lemma answer_ne_tooLargeReply {s : Service} {v : Validator} (hcheck : s.check = v.checker)
    (members : List (Text × Json)) : (s.answer members).1 ≠ tooLargeReply := by
  have hserver : ∀ cause, (failed cause).1 ≠ tooLargeReply := by
    intro cause h
    have hstatus : (500 : Nat) = 400 := congrArg Reply.status h
    omega
  cases ha : Checking.payload s.check s.basis.optionsDepth s.fieldLimits members with
  | error cause =>
    unfold answer
    rw [ha]
    exact hserver cause
  | ok a =>
    obtain ⟨hsent, hfailed⟩ := answer_reply ha
    by_cases hsendable : a.value.response.Sendable
    · rw [hsent hsendable]
      intro h
      have hmessage := Response.message_eq_of_toJson_eq (congrArg Reply.body h)
      rw [hcheck] at ha
      have hmem := Checking.message_of_payload ha
      rw [hmessage] at hmem
      revert hmem
      decide
    · rw [hfailed hsendable]
      exact hserver .disconnected

/-- **Which scripts are too large to be posted.** Take a service on any basis that can read an object at all, which was
started with the limits it has by default and has answered any requests, and a request that is admitted and posts a
script in compact form. It comes out as too large exactly when the script and the thirteen bytes around it take more than
61440 bytes, and else the script is checked. So a script of at most 10237 units always reaches the check, and one within
the ceiling of 51200 units does when it holds printable ASCII characters only, without quotes and backslashes. The client
gets these replies if the path of its request can be told. -/
theorem validate_scriptBody (basis : Basis) (hdepth : 0 < basis.bodyDepth) (settings : ServerSettings)
    (fieldLimits : Limits) (started : Float) (run : List (Float × Request)) (now : Float) (r : Request)
    (script : List Char)
    (hadmitted : (((start basis settings {} started fieldLimits).after run).limiter.check now r.clientKey).2 = .ok ())
    (hposts : r.Posts (scriptBody script)) :
    let s := (start basis settings {} started fieldLimits).after run
    let reply := (s.validate now r).2.reply
    let answered := reply = delivered basis r.toHead (s.answer [(Text.ofString "script", .str (Text.ofChars script))]).1
    (reply = .ok tooLargeReply ↔ (∃ path, basis.path r.toHead = .ok path) ∧ 61440 < 13 + (script.map bodyWidth).sum) ∧
      (61440 < 13 + (script.map bodyWidth).sum → reply = delivered basis r.toHead tooLargeReply) ∧
      (13 + (script.map bodyWidth).sum ≤ 61440 → answered) ∧
      ((Text.ofChars script).units16 ≤ 10237 → answered) ∧
      ((∀ c ∈ script, 0x20 ≤ c.toNat ∧ c.toNat < 0x80 ∧ c ≠ '"' ∧ c ≠ '\\') →
        (Text.ofChars script).units16 ≤ 51200 → answered) := by
  intro s reply answered
  obtain ⟨depth, hdeep⟩ : ∃ depth, basis.bodyDepth = depth + 1 := ⟨basis.bodyDepth - 1, by omega⟩
  -- Whatever was answered before has changed the limiter and nothing else.
  obtain ⟨limiter, hafter⟩ := after_eq (start basis settings {} started fieldLimits) run
  have hs : s = { start basis settings {} started fieldLimits with limiter } := hafter
  have hbasis : s.basis = basis := by rw [hs]; rfl
  have hcheck : s.check = Validator.checker { parse := basis.parse } := by rw [hs]; rfl
  have hlimits : s.limits = {} := by rw [hs]; rfl
  have hlimit : s.limits.bodyLimit = .ok 61440 := by
    rw [hlimits]
    decide +kernel
  have hlarge : 61440 < 13 + (script.map bodyWidth).sum → reply = delivered basis r.toHead tooLargeReply := by
    intro hover
    rw [← length_scriptBody] at hover
    have hreply := validate_reply_of_tooLarge hadmitted hlimit (hposts.readBody_of_lt hover)
    rwa [hbasis] at hreply
  have hfits : 13 + (script.map bodyWidth).sum ≤ 61440 → answered := by
    intro hle
    rw [← length_scriptBody] at hle
    have hreply := validate_reply_eq hadmitted hlimit (hposts.carries hle) hposts.json
      (by rw [hbasis, hdeep]; exact Json.parseBytes_compactObject depth _ _)
    rwa [hbasis] at hreply
  refine ⟨⟨?_, ?_⟩, hlarge, hfits, ?_, ?_⟩
  · intro hreply
    by_cases hover : 61440 < 13 + (script.map bodyWidth).sum
    · rw [hlarge hover] at hreply
      exact ⟨(delivered_eq_ok_iff.mp hreply).1, hover⟩
    · -- No answer to a payload has the message of a body that is too large.
      have hanswered := hfits (Nat.le_of_not_lt hover)
      rw [hanswered] at hreply
      exact absurd (delivered_eq_ok_iff.mp hreply).2 (answer_ne_tooLargeReply hcheck _)
  · rintro ⟨hpath, hover⟩
    rw [hlarge hover]
    exact delivered_eq_ok_iff.mpr ⟨hpath, rfl⟩
  · intro hunits
    have hsum := sum_bodyWidth_le fun c (_ : c ∈ script) => bodyWidth_le c
    exact hfits (by omega)
  · intro hplain hunits
    have hsum : (script.map bodyWidth).sum ≤ 1 * (Text.ofChars script).units16 :=
      sum_bodyWidth_le fun c hc => bodyWidth_le_of_plain (hplain c hc)
    exact hfits (by omega)

/-- A script of euro signs, which take three bytes for one unit. -/
def euroSigns : List Char := List.replicate 20476 '€'

/-- A request that posts it. -/
def euroRequest : Request :=
  { headers := [(Text.ofString "content-type", Text.ofString "application/json")]
    messages := [.chunk (scriptBody euroSigns)] }

theorem validate_scriptBody_euroSigns :
    (Text.ofChars euroSigns).units16 = 20476 ∧
      ((start .builtin {} {} 0).validate 0 euroRequest).2.reply = .ok tooLargeReply := by
  have hunit : (CodePoint.scalar '€').units16 = 1 := by decide
  have hwidth : bodyWidth '€' = 3 := by decide
  have hposts : euroRequest.Posts (scriptBody euroSigns) := by
    have hnone : euroRequest.header? "content-length" = none := header?_jsonHead
    refine ⟨⟨[scriptBody euroSigns], rfl, by simp⟩, fun t ht => ?_, declaresJson_of_jsonHead rfl⟩
    cases hnone.symm.trans ht
  have hover : 61440 < 13 + (euroSigns.map bodyWidth).sum := by
    rw [← length_scriptBody, euroSigns, length_scriptBody_replicate, hwidth]
    decide
  obtain ⟨-, hlarge, -⟩ := validate_scriptBody .builtin (by decide) {} {} 0 [] 0 euroRequest euroSigns
    (Limiter.check_new (by decide) _ _ _ _) hposts
  have hstart : (start .builtin {} {} 0).after [] = start .builtin {} {} 0 := rfl
  rw [hstart] at hlarge
  exact ⟨by rw [euroSigns, units16_replicate, hunit], (hlarge hover).trans (delivered_jsonHead _)⟩

end Service

end ScriptVet
