import ScriptVet.Proofs.BodyReader
import ScriptVet.Proofs.JsonLimits
import ScriptVet.Proofs.LimiterRuns
import ScriptVet.Proofs.Sendable
import ScriptVet.Service.Builtin
import ScriptVet.Service.Tool

/-!
# The route and the tool

A payload can reach the check in two ways: as the body of a request, and as the arguments of a call.
`validate_reply_eq` says what the route replies to a JSON payload once the client is admitted and the body is
read, and `call_eq_of_lookup` that the tool gives the same answer. They agree but for answers that the tool can give and
the route cannot send. They need not have the same room for options that are given as a text: `payload_eq_payload` says
that there is one answer whenever there are answers.
-/

namespace ScriptVet

open Script (Node)

/-! ## Reading a JSON body -/

namespace Request

/-- The request brings a body: in chunks to its end, within the limit, and with a declared length, if there is
one, that is within the limit too. -/
structure Carries (r : Request) (limit : Nat) (body : List UInt8) : Prop where
  chunks : ∃ chunks : List (List UInt8), r.messages = chunks.map Message.chunk ∧ body = chunks.flatten
  within : body.length ≤ limit
  declared : ∀ t, r.header? "content-length" = some t → ∃ n, Number.ofText 10 t = .ok n ∧ n ≤ limit

/-- The request says that its body is JSON. -/
def DeclaresJson (r : Request) : Prop :=
  ∃ t, r.header? "content-type" = some t ∧ t.startsWith "application/json" = true

/-- A body that is carried is read. -/
lemma readBody_of_carries {r : Request} {limit : Nat} {body : List UInt8} (h : r.Carries limit body) :
    (r.readBody limit).result = .ok body := by
  have hwithin : r.DeclaresWithin limit := by
    intro t ht
    obtain ⟨n, hn, hle⟩ := h.declared t ht
    exact ⟨n, Number.ofText_eq_ok_iff.mp hn, hle⟩
  exact readBody_of_brings hwithin h.chunks h.within

end Request

namespace Payload

variable {codec : Form.Codec} {depth : Nat}

lemma read_of_bodyError {r : Request} {limit : Nat} {e : BodyError} (h : (r.readBody limit).result = .error e)
    (fieldLimit maxFields : Nat) : (read codec depth limit fieldLimit maxFields r).result = .error (.ofBody e) := by
  unfold read
  dsimp only
  rw [h]

lemma read_of_body {r : Request} {limit : Nat} {body : List UInt8} (h : (r.readBody limit).result = .ok body)
    (fieldLimit maxFields : Nat) :
    (read codec depth limit fieldLimit maxFields r).result =
      ofBody codec depth fieldLimit maxFields ((r.header? "content-type").getD []) body := by
  unfold read
  dsimp only
  rw [h]

/-- The payload of a request that says that its body is JSON. -/
theorem read_of_declaresJson (codec : Form.Codec) (depth : Nat) {r : Request} {limit : Nat} {body : List UInt8}
    (h : (r.readBody limit).result = .ok body) (hjson : r.DeclaresJson) (fieldLimit maxFields : Nat) :
    (read codec depth limit fieldLimit maxFields r).result = ofJson depth body := by
  obtain ⟨t, ht, hstarts⟩ := hjson
  rw [read_of_body h, ht, Option.getD_some, ofBody, if_pos hstarts]

/-- An object is a payload. -/
theorem ofJson_of_object {body : List UInt8} {members : List (Text × Json)}
    (hbody : Json.parseBytes depth body = .ok (.obj members)) : ofJson depth body = .ok members := by
  -- An empty body is read as `null`, which is no object.
  have hne : body.isEmpty = false := by
    cases body with
    | nil => cases depth <;> cases hbody
    | cons b rest => rfl
  rw [ofJson, hne, hbody]
  rfl

end Payload

/-! ## Calling the tool -/

/-- A payload is read by three of its fields only. -/
lemma Checking.payload_congr {check : Checker} {depth : Nat} {limits : Limits} {p q : List (Text × Json)}
    (h : ∀ name ∈ ["script", "filename", "options"], Submission.fieldOf p name = Submission.fieldOf q name) :
    payload check depth limits p = payload check depth limits q := by
  have hread : Submission.read depth limits p = Submission.read depth limits q := by
    unfold Submission.read
    rw [h "script" (by simp), h "filename" (by simp), h "options" (by simp)]
  unfold payload
  rw [hread]

/-- Options that are not given up on come to the same, however much room there is for them. -/
lemma Submission.readOptions_eq_readOptions {depth depth' : Nat} {options : Json}
    (h : ∀ cause, readOptions depth options ≠ .error cause) (h' : ∀ cause, readOptions depth' options ≠ .error cause) :
    readOptions depth options = readOptions depth' options := by
  cases options with
  | str t =>
    have hdeep : ∀ {d : Nat}, (∀ cause, readOptions d (.str t) ≠ .error cause) →
        ∀ c, Json.parse d t ≠ .error (.tooDeep c) := by
      intro d hd c hc
      refine hd (.tooDeep c) ?_
      unfold readOptions
      dsimp only
      rw [hc]
    unfold readOptions
    dsimp only
    rw [Json.parse_eq_parse (hdeep h) (hdeep h')]
  | _ => rfl

/-- A payload that has answers has one, however much room there is for its options. -/
lemma Checking.payload_eq_payload {check : Checker} {depth depth' : Nat} {limits : Limits}
    {members : List (Text × Json)} {a b : Logged Answer} (ha : payload check depth limits members = .ok a)
    (hb : payload check depth' limits members = .ok b) : a = b := by
  have hreads : ∀ {d : Nat} {c : Logged Answer}, payload check d limits members = .ok c →
      ∀ cause, Submission.readOptions d (Submission.fieldOf members "options") ≠ .error cause := by
    intro d c hc cause hcause
    unfold payload Submission.read at hc
    dsimp only at hc
    rw [hcause] at hc
    cases hc
  have hsame : Submission.read depth limits members = Submission.read depth' limits members := by
    unfold Submission.read
    rw [Submission.readOptions_eq_readOptions (hreads ha) (hreads hb)]
  unfold payload at ha hb
  rw [hsame, hb] at ha
  exact (Except.ok.inj ha).symm

/-- The arguments of a call are the fields of its payload. -/
lemma Tool.fieldOf_payload (script filename options : Json) :
    Submission.fieldOf (payload script filename options) "script" = script ∧
      Submission.fieldOf (payload script filename options) "filename" = filename ∧
      Submission.fieldOf (payload script filename options) "options" = options := by
  have hsf : Text.ofString "script" ≠ Text.ofString "filename" := by decide
  have hso : Text.ofString "script" ≠ Text.ofString "options" := by decide
  have hfo : Text.ofString "filename" ≠ Text.ofString "options" := by decide
  unfold Submission.fieldOf payload
  refine ⟨rfl, ?_, ?_⟩
  · cases filename <;> cases options <;> simp [Json.lookup, hsf, hfo.symm]
  · cases filename <;> cases options <;> simp [Json.lookup, hso, hfo]

/-- A call with the fields of a payload gets the answer to the payload. -/
lemma Tool.call_eq_of_lookup {check : Checker} {depth : Nat} {limits : Limits} {members : List (Text × Json)}
    {a : Logged Answer} (h : Checking.payload check depth limits members = .ok a) {script : Json}
    (hscript : Json.lookup (Text.ofString "script") members = some script) :
    call check depth limits (some script) (Submission.fieldOf members "filename")
      (Submission.fieldOf members "options") = .ok a.value.response := by
  obtain ⟨hs, hf, ho⟩ :=
    fieldOf_payload script (Submission.fieldOf members "filename") (Submission.fieldOf members "options")
  have hfield : Submission.fieldOf members "script" = script := by
    unfold Submission.fieldOf
    rw [hscript, Option.getD_some]
  have hsame : Checking.payload check depth limits
      (payload script (Submission.fieldOf members "filename") (Submission.fieldOf members "options")) = .ok a := by
    rw [← h]
    apply Checking.payload_congr
    intro name hname
    simp only [List.mem_cons, List.not_mem_nil, or_false] at hname
    rcases hname with rfl | rfl | rfl
    · rw [hs, hfield]
    · exact hf
    · exact ho
  unfold call
  dsimp only
  rw [hsame]

/-! ## Services that run -/

namespace Service

/-- The service after it answered requests, each at a reading of the clock. -/
def after (s : Service) : List (Float × Request) → Service
  | [] => s
  | (now, r) :: rest => (s.validate now r).1.after rest

/-- A request changes what is known of clients and nothing else. -/
theorem validate_fst (s : Service) (now : Float) (r : Request) :
    (s.validate now r).1 = { s with limiter := (s.limiter.check now r.clientKey).1 } := by
  unfold validate
  dsimp only
  split <;> rfl

/-- Requests change what is known of clients and nothing else. -/
theorem after_eq (s : Service) (run : List (Float × Request)) : ∃ limiter, s.after run = { s with limiter } := by
  induction run generalizing s with
  | nil => exact ⟨s.limiter, rfl⟩
  | cons entry rest ih =>
    obtain ⟨now, r⟩ := entry
    obtain ⟨limiter, h⟩ := ih (s.validate now r).1
    refine ⟨limiter, h.trans ?_⟩
    rw [validate_fst]

/-- What the client gets of a reply: the reply, if the path of the request can be told. -/
def delivered (basis : Basis) (h : Head) (reply : Reply) : Except Failure Reply :=
  (basis.path h).map fun _ => reply

/-- A reply is delivered when the path can be told. -/
theorem delivered_eq_ok_iff {basis : Basis} {h : Head} {reply got : Reply} :
    delivered basis h reply = .ok got ↔ (∃ path, basis.path h = .ok path) ∧ reply = got := by
  unfold delivered
  cases basis.path h with
  | error cause => exact iff_of_false nofun fun h => nomatch h.1
  | ok path => simp [Except.map]

/-- Closing an exchange delivers its reply. -/
lemma close_reply (s : Service) (h : Head) (status taken : Nat) (reply : Reply) (events : List Log.Event) :
    (s.close h status ⟨.ok reply, taken, events⟩).reply = delivered s.basis h reply := by
  unfold close delivered
  cases s.basis.path h <;> rfl

/-- What is replied to a client that is admitted does not depend on what is known of clients. -/
theorem validate_reply_of_admitted {s : Service} {now : Float} {r : Request}
    (hadmitted : (s.limiter.check now r.clientKey).2 = .ok ()) :
    (s.validate now r).2.reply = delivered s.basis r.toHead (s.admitted r).1 := by
  unfold validate
  dsimp only
  rw [hadmitted]
  exact close_reply ..

section Admitted

variable {s : Service} {now : Float} {r : Request} {limit : Nat}

lemma admitted_of_refused (hlimit : s.limits.bodyLimit = .ok limit) {e : PayloadError}
    (h : (Payload.read s.basis.codec s.basis.bodyDepth limit s.limits.maxScriptSize s.settings.maxFormFields r).result =
      .error e) : (s.admitted r).1 = (refuse e).1 := by
  unfold admitted
  rw [hlimit]
  dsimp only
  rw [h]

lemma admitted_of_read (hlimit : s.limits.bodyLimit = .ok limit) {members : List (Text × Json)}
    (h : (Payload.read s.basis.codec s.basis.bodyDepth limit s.limits.maxScriptSize s.settings.maxFormFields r).result =
      .ok members) : (s.admitted r).1 = (s.answer members).1 := by
  unfold admitted
  rw [hlimit]
  dsimp only
  rw [h]

/-- What is replied to a client that is admitted and brings a payload. -/
theorem validate_reply_eq {body : List UInt8} {members : List (Text × Json)}
    (hadmitted : (s.limiter.check now r.clientKey).2 = .ok ()) (hlimit : s.limits.bodyLimit = .ok limit)
    (hcarries : r.Carries limit body) (hjson : r.DeclaresJson)
    (hbody : Json.parseBytes s.basis.bodyDepth body = .ok (.obj members)) :
    (s.validate now r).2.reply = delivered s.basis r.toHead (s.answer members).1 := by
  have hread := Payload.read_of_declaresJson s.basis.codec s.basis.bodyDepth
    (Request.readBody_of_carries hcarries) hjson s.limits.maxScriptSize s.settings.maxFormFields
  rw [Payload.ofJson_of_object hbody] at hread
  rw [validate_reply_of_admitted hadmitted, admitted_of_read hlimit hread]

/-- What is replied to a client that is admitted and whose body is no payload. -/
theorem validate_reply_of_error {body : List UInt8} {e : PayloadError}
    (hadmitted : (s.limiter.check now r.clientKey).2 = .ok ()) (hlimit : s.limits.bodyLimit = .ok limit)
    (hcarries : r.Carries limit body) (hjson : r.DeclaresJson)
    (hbody : Payload.ofJson s.basis.bodyDepth body = .error e) :
    (s.validate now r).2.reply = delivered s.basis r.toHead (refuse e).1 := by
  have hread := Payload.read_of_declaresJson s.basis.codec s.basis.bodyDepth
    (Request.readBody_of_carries hcarries) hjson s.limits.maxScriptSize s.settings.maxFormFields
  rw [hbody] at hread
  rw [validate_reply_of_admitted hadmitted, admitted_of_refused hlimit hread]

end Admitted

/-- An answer is replied as it is when it can be sent, and as a failure of the service when not. -/
theorem answer_reply {s : Service} {members : List (Text × Json)} {a : Logged Answer}
    (h : Checking.payload s.check s.basis.optionsDepth s.fieldLimits members = .ok a) :
    (a.value.response.Sendable → (s.answer members).1 = ⟨a.value.status, a.value.response.toJson⟩) ∧
      (¬ a.value.response.Sendable → (s.answer members).1 = ⟨500, Response.serverError.toJson⟩) := by
  constructor
  · intro hsendable
    unfold answer
    rw [h]
    dsimp only
    rw [encode_of_sendable hsendable]
  · intro hnot
    obtain ⟨cause, hcause⟩ := encode_of_not_sendable hnot
    unfold answer
    rw [h]
    dsimp only
    rw [hcause]
    rfl

/-- What the route replies is the answer to the payload, unless the answer cannot be sent. -/
lemma validate_reply_iff {s : Service} {v : Validator} (hcheck : s.check = v.checker) (hv : v.registry.Prepared)
    {now : Float} {r : Request} {limit : Nat} {body : List UInt8} {members : List (Text × Json)} {a : Logged Answer}
    (hadmitted : (s.limiter.check now r.clientKey).2 = .ok ()) (hlimit : s.limits.bodyLimit = .ok limit)
    (hcarries : r.Carries limit body) (hjson : r.DeclaresJson)
    (hbody : Json.parseBytes s.basis.bodyDepth body = .ok (.obj members))
    (ha : Checking.payload s.check s.basis.optionsDepth s.fieldLimits members = .ok a) :
    let shows := ShowsUnsendable v.parse s.basis.optionsDepth s.fieldLimits members
    (¬ shows → (s.validate now r).2.reply = delivered s.basis r.toHead ⟨a.value.status, a.value.response.toJson⟩) ∧
      (shows → a.value.status = 400 ∧
        (s.validate now r).2.reply = delivered s.basis r.toHead ⟨500, Response.serverError.toJson⟩) := by
  have hchecked := ha
  rw [hcheck] at hchecked
  obtain ⟨hsendable, hstatus⟩ := Checking.payload_sendable_iff hv hchecked
  obtain ⟨hsent, hfailed⟩ := answer_reply ha
  rw [validate_reply_eq hadmitted hlimit hcarries hjson hbody]
  refine ⟨fun hfine => ?_, fun hbad => ⟨hstatus hbad, ?_⟩⟩
  · rw [hsent (hsendable.mpr hfine)]
  · rw [hfailed fun h => hsendable.mp h hbad]

/-- **The route and the tool agree, but for texts that cannot be sent.** Take a service on any basis that was started with
any limits and has answered any requests, and a request that is admitted, brings a JSON object within the limit on
bodies, and has an answer. The tool gives that answer for the same fields, whenever its own room for options is enough to
answer at all. The route delivers the status and the body of that answer, unless the answer shows something that has no
UTF-8 form: the name of a module that may not be imported and, once decoded, holds a surrogate, or the extensions that
the limits allow. Such a payload is answered with status 400, but the route delivers that the service failed, with
status 500. -/
theorem validate_agrees (basis : Basis) (settings : ServerSettings) (limits fieldLimits : Limits) (started : Float)
    (run : List (Float × Request)) (now : Float) (r : Request) (limit : Nat) (body : List UInt8)
    (members : List (Text × Json)) (a : Logged Answer)
    (hadmitted :
      (((start basis settings limits started fieldLimits).after run).limiter.check now r.clientKey).2 = .ok ())
    (hlimit : limits.bodyLimit = .ok limit) (hcarries : r.Carries limit body) (hjson : r.DeclaresJson)
    (hbody : Json.parseBytes basis.bodyDepth body = .ok (.obj members))
    (ha : Checking.payload (Validator.checker { parse := basis.parse, limits }) basis.optionsDepth fieldLimits members =
      .ok a) :
    let reply := (((start basis settings limits started fieldLimits).after run).validate now r).2.reply
    let shows := ShowsUnsendable basis.parse basis.optionsDepth fieldLimits members
    (¬ shows → reply = delivered basis r.toHead ⟨a.value.status, a.value.response.toJson⟩) ∧
      (shows → a.value.status = 400 ∧ reply = delivered basis r.toHead ⟨500, Response.serverError.toJson⟩) ∧
      ∀ script depth b, Json.lookup (Text.ofString "script") members = some script →
        Checking.payload (Validator.checker { parse := basis.parse, limits }) depth fieldLimits members = .ok b →
        Tool.call (Validator.checker { parse := basis.parse, limits }) depth fieldLimits (some script)
          (Submission.fieldOf members "filename") (Submission.fieldOf members "options") = .ok a.value.response := by
  intro reply shows
  obtain ⟨limiter, hafter⟩ := after_eq (start basis settings limits started fieldLimits) run
  have hbasis : ((start basis settings limits started fieldLimits).after run).basis = basis := by rw [hafter]; rfl
  have hcheck : ((start basis settings limits started fieldLimits).after run).check =
      Validator.checker { parse := basis.parse, limits } := by rw [hafter]; rfl
  have hfields : ((start basis settings limits started fieldLimits).after run).fieldLimits = fieldLimits := by
    rw [hafter]; rfl
  have hlimits : ((start basis settings limits started fieldLimits).after run).limits = limits := by rw [hafter]; rfl
  have hprepared : ({ parse := basis.parse, limits } : Validator).registry.Prepared := by
    -- Without `dsimp only` the registry would be evaluated to see that it is the default one.
    dsimp only
    exact Registry.default_prepared
  have hreply := validate_reply_iff hcheck hprepared hadmitted (by rw [hlimits]; exact hlimit) hcarries hjson
    (by rw [hbasis]; exact hbody) (by rw [hcheck, hbasis, hfields]; exact ha)
  rw [hbasis, hfields] at hreply
  refine ⟨hreply.1, hreply.2, fun script depth b hscript hb => ?_⟩
  rw [Checking.payload_eq_payload ha hb]
  exact Tool.call_eq_of_lookup hb hscript

/-! ## Requests that only say that they are JSON -/

/-- The head of a request that says that its body is JSON, and nothing more. -/
def jsonHead : Head := { headers := [(Text.ofString "content-type", Text.ofString "application/json")] }

/-- It declares no length. -/
lemma header?_jsonHead : jsonHead.header? "content-length" = none := by decide +kernel

lemma declaresJson_of_jsonHead {r : Request} (h : r.toHead = jsonHead) : r.DeclaresJson := by
  unfold Request.DeclaresJson
  rw [h]
  exact ⟨Text.ofString "application/json", by decide +kernel, by decide +kernel⟩

/-- A chunk within the limit is carried. -/
lemma carries_of_jsonHead {r : Request} {limit : Nat} {body : List UInt8} (h : r.toHead = jsonHead)
    (hmessages : r.messages = [.chunk body]) (hle : body.length ≤ limit) : r.Carries limit body := by
  refine ⟨⟨[body], hmessages, by simp⟩, hle, fun t ht => ?_⟩
  rw [h, header?_jsonHead] at ht
  cases ht

/-- Its path can be told. -/
lemma delivered_jsonHead (reply : Reply) : delivered .builtin jsonHead reply = .ok reply := by
  have hpath : Basis.builtin.path jsonHead = .ok (Text.ofString "/api/v1/validate") := rfl
  exact delivered_eq_ok_iff.mpr ⟨⟨_, hpath⟩, rfl⟩

/-! ## A script that the route cannot answer -/

/-- A script that imports a module whose name is a lone surrogate. -/
def surrogateImport : List Char := "import'\\ud800'".toList

private lemma parse_surrogateImport :
    Script.parse .javascript surrogateImport = .mk .program none ⟨0, 14⟩ [.mk .importStatement none ⟨0, 14⟩
      [.mk .string (some .source) ⟨6, 14⟩ [.mk .escapeSequence none ⟨7, 13⟩ []]]] := by
  cbv

private lemma surrogateImport_namesUnsendable :
    NamesUnsendable Script.parse (Text.ofChars surrogateImport) .javascript := by
  refine ⟨surrogateImport, rfl, ?_, ?_, [.surrogate 0], ?_, ?_, ?_⟩
  · rw [parse_surrogateImport]
    unfold Node.Faultless
    decide
  · rw [parse_surrogateImport]
    rintro n hn s ⟨-, hs, -⟩
    obtain rfl := List.mem_singleton.mp hn
    obtain rfl := Option.some.inj hs
    exact ⟨[.surrogate 0], by decide⟩
  · rw [parse_surrogateImport]
    exact ⟨_, List.mem_singleton.mpr rfl, _, ⟨rfl, rfl, rfl⟩, by decide⟩
  · rw [← Specifier.isAllowed_iff]
    decide
  · simp [Text.hasUtf8_cons]

/-- The fields that submit the script. -/
def surrogateMembers : List (Text × Json) := [(Text.ofString "script", .str (Text.ofChars surrogateImport))]

/-- The fields as a JSON text. -/
def surrogateBody : List UInt8 :=
  "\x7b\"script\":\"import'\\\\ud800'\"\x7d".toList.map fun c => UInt8.ofNat c.toNat

/-- A request that brings them. -/
def surrogateRequest : Request :=
  { headers := [(Text.ofString "content-type", Text.ofString "application/json")], messages := [.chunk surrogateBody] }

/-- What is answered about the script. -/
def surrogateAnswer : Logged Answer :=
  Checking.submission (Validator.checker { parse := Script.parse }) ⟨Text.ofChars surrogateImport, .javascript, none⟩

theorem validate_agrees_surrogateImport :
    surrogateAnswer.value.status = 400 ∧
      ((start .builtin {} {} 0).validate 0 surrogateRequest).2.reply = .ok ⟨500, Response.serverError.toJson⟩ ∧
      Tool.call (Validator.checker { parse := Script.parse }) 990 {} (some (.str (Text.ofChars surrogateImport))) =
        .ok surrogateAnswer.value.response := by
  have hread : Submission.read 990 {} surrogateMembers = .ok ⟨Text.ofChars surrogateImport, .javascript, none⟩ := by cbv
  have hbody : Json.parseBytes 990 surrogateBody = .ok (.obj surrogateMembers) := rfl
  have hcarries : surrogateRequest.Carries 61440 surrogateBody := carries_of_jsonHead rfl rfl (by decide +kernel)
  have hanswer : Checking.payload (Validator.checker { parse := Script.parse }) 990 {} surrogateMembers =
      .ok surrogateAnswer := by
    unfold Checking.payload
    rw [hread]
    rfl
  obtain ⟨-, hbad, htool⟩ := validate_agrees .builtin {} {} {} 0 [] 0 surrogateRequest 61440 surrogateBody
    surrogateMembers surrogateAnswer (Limiter.check_new (by decide) _ _ _ _) (by decide +kernel) hcarries
    (declaresJson_of_jsonHead rfl) hbody hanswer
  obtain ⟨hstatus, hreply⟩ := hbad (.module hread surrogateImport_namesUnsendable)
  have hstart : (start .builtin {} {} 0).after [] = start .builtin {} {} 0 := rfl
  rw [hstart] at hreply
  exact ⟨hstatus, hreply.trans (delivered_jsonHead _), htool _ 990 surrogateAnswer rfl hanswer⟩

end Service

end ScriptVet
