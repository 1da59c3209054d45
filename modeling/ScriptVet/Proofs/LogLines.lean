import ScriptVet.Log.Line
import ScriptVet.Proofs.WrittenJson

/-!
# What a line of the log says

A line is an object in JSON. `Entry.Shows` lists what an entry is to show, and `line_reads_back` says that a reader of
its line finds exactly that, whatever the texts in the entry are. So no text can end a line, hide a member or add one.

The clock and the template of a message decide whether there is a line at all. What the clock makes of a time holds no
surrogates (`timestamp_hasUtf8`), so nothing has to be asked of it.
-/

namespace ScriptVet.Log

/-! ## The time -/

/-- Three digits of milliseconds. -/
def clockDigits : Directive := { flags := { zero := true }, width := some 3, conversion := .scalar 'd' }

/-- A time is shown with a comma and its milliseconds behind it. -/
lemma fill_clock (t : Text) (milliseconds : Json) :
    fill "%s,%03d" (.list [.str t, milliseconds]) =
      (convertInteger clockDigits 3 none 10 "" false milliseconds).map fun shown => t ++ .scalar ',' :: shown := by
  -- All steps but the two conversions are fixed by the template.
  have hsteps : fill "%s,%03d" (.list [.str t, milliseconds]) =
      (convertInteger clockDigits 3 none 10 "" false milliseconds >>= fun shown =>
        .ok (shown.reverse ++ (CodePoint.scalar ',' :: ((pad false 0 t).reverse ++ []))).reverse) := rfl
  have hpad : pad false 0 t = t := by simp [pad]
  rw [hsteps, hpad]
  cases convertInteger clockDigits 3 none 10 "" false milliseconds with
  | error e => rfl
  | ok shown =>
    show Except.ok _ = Except.ok _
    simp

private lemma padNumber_hasUtf8 (f : Flags) (width : Nat) (negative : Bool) (mark digits : String) :
    (padNumber f width negative mark digits).HasUtf8 := by
  have hspace : ∀ n, Text.HasUtf8 (List.replicate n (CodePoint.scalar ' ')) :=
    fun n => ⟨List.replicate n ' ', List.map_replicate.symm⟩
  unfold padNumber pad
  dsimp only
  split
  · exact Text.hasUtf8_append.mpr ⟨Text.hasUtf8_ofString _, hspace _⟩
  · exact Text.hasUtf8_append.mpr ⟨hspace _, Text.hasUtf8_ofString _⟩

/-- An integer is shown in characters. -/
lemma convertInteger_hasUtf8 {d : Directive} {width base : Nat} {precision : Option Nat} {mark : String}
    {upper : Bool} {v : Json} {t : Text} (h : convertInteger d width precision base mark upper v = .ok t) : t.HasUtf8 := by
  obtain ⟨n, -, h⟩ := Steps.bind_eq_ok_iff.mp h
  dsimp only at h
  split at h
  · cases h
  · rw [← Except.ok.inj h]
    exact padNumber_hasUtf8 _ _ _ _ _

/-- The time of a line has a UTF-8 form. -/
lemma timestamp_hasUtf8 {created milliseconds : Json} {time : Text} (h : timestamp created milliseconds = .ok time) :
    time.HasUtf8 := by
  obtain ⟨seconds, -, h⟩ := Steps.bind_eq_ok_iff.mp h
  rw [fill_clock] at h
  cases hshown : convertInteger clockDigits 3 none 10 "" false milliseconds with
  | error e =>
    rw [hshown] at h
    cases h
  | ok shown =>
    rw [hshown] at h
    have htime : Text.ofString (Moment.ofSeconds seconds).text ++ .scalar ',' :: shown = time := Except.ok.inj h
    rw [← htime, Text.hasUtf8_append, Text.hasUtf8_cons]
    exact ⟨Text.hasUtf8_ofString _, ⟨',', rfl⟩, convertInteger_hasUtf8 hshown⟩

private lemma mem_of_lookup {name : Text} {v : Json} {members : List (Text × Json)} (h : Json.lookup name members = some v) :
    (name, v) ∈ members := by
  induction members with
  | nil => cases h
  | cons m members ih =>
    obtain ⟨k, w⟩ := m
    unfold Json.lookup at h
    split at h
    · next hname =>
      rw [← hname, Option.some.inj h]
      exact List.mem_cons_self
    · exact List.mem_cons_of_mem _ (ih h)

/-- Some integers have too many digits, whatever the limit is. -/
lemma exists_isOverlong : ∃ n : Int, Number.isOverlong n = true := by
  have hlong : ∀ k, ∃ n, k < (Nat.toDigits 10 n).length := by
    intro k
    refine ⟨Nat.pow 10 (k + 1), Nat.lt_of_not_le fun hle => ?_⟩
    have hlt := (Nat.length_toDigits_le_iff (by decide) k.succ_pos).mp (Nat.le_succ_of_le hle)
    exact Nat.lt_irrefl _ hlt
  obtain ⟨n, hn⟩ := hlong Number.maxIntegerDigits
  exact ⟨n, decide_eq_true hn⟩

namespace Entry

/-! ## Entries -/

/-- What an entry says: its text, the digits of its integer, or its template with the arguments filled in. -/
inductive Says (e : Entry) : Text → Prop where
  | text {t : Text} (hmessage : e.message = .str t) (halone : e.arguments = .list []) : Says e t
  | integer {n : Int} (hmessage : e.message = .int n) (halone : e.arguments = .list [])
      (hshort : Number.isOverlong n = false) : Says e (Text.ofInt n)
  | template {t : Text} (hfilled : e.filled = .ok t) : Says e t

/-- A message is what its template comes to. -/
theorem Says.filled {e : Entry} {message : Text} (h : e.Says message) : e.filled = .ok message := by
  cases h with
  | text hmessage halone =>
    unfold Entry.filled
    rw [hmessage, halone]
    rfl
  | @integer n hmessage halone hshort =>
    have hwords : inWords Json.plain (.int n) = .ok (Text.ofInt n) := if_neg (by simp [Json.integers, hshort])
    unfold Entry.filled
    rw [hmessage, halone, hwords]
    rfl
  | template hfilled => exact hfilled

/-- What the line of an entry is to show. -/
inductive Shows (e : Entry) (time message : Text) : Text → Json → Prop where
  | timestamp : Shows e time message "timestamp" (.str time)
  | level : Shows e time message "level" e.level
  | logger : Shows e time message "logger" e.logger
  | message : Shows e time message "message" (.str message)
  | field {name : String} {v : Json} (hknown : name ∈ knownFields) (hfield : Json.lookup name e.fields = some v) :
      Shows e time message name v
  | exception {c : Cause} (hcause : e.cause = some c) : Shows e time message "exception" (.str c.describe)

/-- What an entry holds beside its time are texts, in which no two surrogates make a pair, and integers. -/
structure Plain (e : Entry) (message : Text) : Prop where
  level : e.level.IsPlain
  logger : e.logger.IsPlain
  message : message.Pairless
  field : ∀ name ∈ knownFields, ∀ v, Json.lookup (Text.ofString name) e.fields = some v → v.IsPlain
  cause : ∀ c, e.cause = some c → c.describe.Pairless

/-- The members of a line. -/
def lineMembers (e : Entry) (time message : Text) : List (Text × Json) :=
  (Text.ofString "timestamp", .str time) :: e.members message

variable {e : Entry} {time message : Text}

/-- The fields that are written are the known ones that the entry has. -/
lemma mem_writtenFields_iff {name : Text} {v : Json} :
    (name, v) ∈ e.writtenFields ↔
      ∃ s ∈ knownFields, Text.ofString s = name ∧ Json.lookup (Text.ofString s) e.fields = some v := by
  unfold writtenFields
  rw [List.mem_filterMap]
  constructor
  · rintro ⟨s, hs, h⟩
    obtain ⟨w, hw, heq⟩ := Option.map_eq_some_iff.mp h
    obtain ⟨rfl, rfl⟩ := Prod.mk.inj heq
    exact ⟨s, hs, rfl, hw⟩
  · rintro ⟨s, hs, rfl, hv⟩
    exact ⟨s, hs, Option.map_eq_some_iff.mpr ⟨v, hv, rfl⟩⟩

/-- The members of a line are what the entry shows. -/
lemma mem_lineMembers_iff {name : Text} {v : Json} :
    (name, v) ∈ e.lineMembers time message ↔ e.Shows time message name v := by
  have hcause : (name, v) ∈ (e.cause.map fun c => [(Text.ofString "exception", Json.str c.describe)]).getD [] ↔
      ∃ c, e.cause = some c ∧ name = Text.ofString "exception" ∧ v = .str c.describe := by
    cases e.cause <;> simp
  unfold lineMembers members
  simp only [List.mem_cons, List.mem_append, List.not_mem_nil, or_false, mem_writtenFields_iff, hcause, Prod.mk.injEq]
  constructor
  · rintro (⟨rfl, rfl⟩ | ((⟨rfl, rfl⟩ | ⟨rfl, rfl⟩ | ⟨rfl, rfl⟩) | ⟨s, hs, rfl, hv⟩) | ⟨c, hc, rfl, rfl⟩)
    · exact .timestamp
    · exact .level
    · exact .logger
    · exact .message
    · exact .field hs hv
    · exact .exception hc
  · intro h
    cases h with
    | timestamp => exact Or.inl ⟨rfl, rfl⟩
    | level => exact Or.inr (Or.inl (Or.inl (Or.inl ⟨rfl, rfl⟩)))
    | logger => exact Or.inr (Or.inl (Or.inl (Or.inr (Or.inl ⟨rfl, rfl⟩))))
    | message => exact Or.inr (Or.inl (Or.inl (Or.inr (Or.inr ⟨rfl, rfl⟩))))
    | @field s v hknown hfield => exact Or.inr (Or.inl (Or.inr ⟨s, hknown, rfl, hfield⟩))
    | @exception c hc => exact Or.inr (Or.inr ⟨c, hc, rfl, rfl⟩)

/-- The names of a line, if all known fields are there. -/
def lineNames : List Text :=
  (["timestamp", "level", "logger", "message"] ++ knownFields ++ ["exception"]).map Text.ofString

private lemma lineNames_nodup : lineNames.Nodup := by decide +kernel

/-- The known fields are written in their order. -/
lemma writtenFields_sublist : (e.writtenFields.map Prod.fst).Sublist (knownFields.map Text.ofString) := by
  unfold writtenFields
  generalize knownFields = names
  induction names with
  | nil => exact .slnil
  | cons s names ih =>
    cases hfield : Json.lookup (Text.ofString s) e.fields with
    | none =>
      rw [List.filterMap_cons_none (by rw [hfield]; rfl), List.map_cons]
      exact ih.cons _
    | some v =>
      rw [List.filterMap_cons_some (b := (Text.ofString s, v)) (by rw [hfield]; rfl), List.map_cons, List.map_cons]
      exact ih.cons_cons _

/-- No two members of a line have the same name. -/
lemma lineMembers_nodup : ((e.lineMembers time message).map Prod.fst).Nodup := by
  have hcause : (((e.cause.map fun c => [(Text.ofString "exception", Json.str c.describe)]).getD []).map
      Prod.fst).Sublist [Text.ofString "exception"] := by
    cases e.cause with
    | none => exact List.nil_sublist _
    | some c => exact List.Sublist.refl _
  -- Fields may be missing, but those that are there keep their order.
  have hnames : ((e.lineMembers time message).map Prod.fst).Sublist lineNames := by
    unfold lineMembers members lineNames
    rw [List.map_append, List.map_append, List.map_cons, List.map_append, List.map_append, ← List.cons_append,
      ← List.cons_append]
    exact (List.Sublist.append (List.Sublist.refl _) writtenFields_sublist).append hcause
  exact lineNames_nodup.sublist hnames

/-- What a plain entry shows are plain values. -/
lemma Plain.isPlain (hplain : e.Plain message) (htime : time.HasUtf8) {name : Text} {v : Json}
    (h : e.Shows time message name v) : v.IsPlain := by
  cases h with
  | timestamp => exact htime.pairless
  | level => exact hplain.level
  | logger => exact hplain.logger
  | message => exact hplain.message
  | field hknown hfield => exact hplain.field _ hknown _ hfield
  | exception hcause => exact hplain.cause _ hcause

private lemma Shows.name_hasUtf8 {name : Text} {v : Json} (h : e.Shows time message name v) : name.HasUtf8 := by
  cases h <;> exact Text.hasUtf8_ofString _

/-! ## Lines -/

/-- The line of an entry is the object of its members. -/
lemma toJson_eq (htime : Log.timestamp e.created e.milliseconds = .ok time) (hmessage : e.filled = .ok message) :
    e.toJson = .ok (.obj (e.lineMembers time message)) := by
  unfold toJson
  rw [htime, hmessage]
  rfl

/-- A line is written unless an integer in it is too long. -/
lemma line_eq (htime : Log.timestamp e.created e.milliseconds = .ok time) (hmessage : e.filled = .ok message) :
    e.line =
      if (Json.obj (e.lineMembers time message)).integers.any Number.isOverlong then .error (.template .tooManyDigits)
      else .ok (Json.obj (e.lineMembers time message)).write := by
  unfold line
  rw [toJson_eq htime hmessage]
  rfl

/-- The integers of a line are the integers that its entry shows. -/
theorem mem_integers_iff (hplain : e.Plain message) (htime : time.HasUtf8) {n : Int} :
    n ∈ (Json.obj (e.lineMembers time message)).integers ↔ ∃ name, e.Shows time message name (.int n) := by
  rw [Json.integers, Json.mem_integersOfMembers_iff fun m hm => hplain.isPlain htime (mem_lineMembers_iff.mp hm)]
  simp only [mem_lineMembers_iff]

/-- The members of a line are printable and are read back, unless an integer among them is too long. -/
lemma exists_line_eq_ok (htime : Log.timestamp e.created e.milliseconds = .ok time)
    (hmessage : e.filled = .ok message) (hplain : e.Plain message)
    (hshort : ∀ name n, e.Shows time message name (.int n) → Number.isOverlong n = false) :
    ∃ cs, e.line = .ok cs ∧ (∀ c ∈ cs, Json.IsPrintable c) ∧
      ∀ depth, Json.parse (depth + 1) (Text.ofChars cs) = .ok (.obj (e.lineMembers time message)) := by
  have hclock := timestamp_hasUtf8 htime
  have hall : ∀ n ∈ (Json.obj (e.lineMembers time message)).integers, Number.isOverlong n = false := by
    intro n hn
    obtain ⟨name, hshows⟩ := (mem_integers_iff hplain hclock).mp hn
    exact hshort name n hshows
  have hline : e.line = .ok (Json.obj (e.lineMembers time message)).write := by
    rw [line_eq htime hmessage, if_neg]
    simpa using hall
  have hshows : ∀ m ∈ e.lineMembers time message, e.Shows time message m.1 m.2 := fun m hm => mem_lineMembers_iff.mp hm
  have hmembers : ∀ m ∈ e.lineMembers time message, m.2.IsPlain := fun m hm => hplain.isPlain hclock (hshows m hm)
  refine ⟨_, hline, ?_, fun depth => Json.parse_write_obj (List.cons_ne_nil _ _) ⟨lineMembers_nodup, ?_, ?_⟩ depth⟩
  · exact Json.printable_obj fun m hm => (hmembers m hm).printable
  · exact fun m hm => (hshows m hm).name_hasUtf8.pairless
  · intro m hm
    refine (hmembers m hm).readsBack fun n hn => hshort m.1 n ?_
    rw [← (hmembers m hm).mem_integers_iff.mp hn]
    exact hshows m hm

/-- **A line says what its entry shows, and nothing else.** It is one line of printable ASCII, and a reader of it finds
each member once, with the value that the entry has, whatever room for containers it has beyond the one. Only an integer
that is too long stands in the way: then there is no line. -/
theorem line_reads_back (e : Entry) (time message : Text) (htime : Log.timestamp e.created e.milliseconds = .ok time)
    (hmessage : e.Says message) (hplain : e.Plain message) :
    ((∃ name n, e.Shows time message name (.int n) ∧ Number.isOverlong n = true) →
        e.line = .error (.template .tooManyDigits)) ∧
      ((∀ name n, e.Shows time message name (.int n) → Number.isOverlong n = false) →
        ∃ cs members, e.line = .ok cs ∧ (∀ c ∈ cs, 0x20 ≤ c.toNat ∧ c.toNat ≤ 0x7E) ∧
          (∀ depth, Json.parse (depth + 1) (Text.ofChars cs) = .ok (.obj members)) ∧ (members.map Prod.fst).Nodup ∧
          ∀ name value, (name, value) ∈ members ↔ e.Shows time message name value) := by
  constructor
  · rintro ⟨name, n, hshows, hlong⟩
    have hmem := (mem_integers_iff hplain (timestamp_hasUtf8 htime)).mpr ⟨name, hshows⟩
    rw [line_eq htime hmessage.filled, if_pos (List.any_eq_true.mpr ⟨n, hmem, hlong⟩)]
  · intro hshort
    obtain ⟨cs, hline, hprintable, hparse⟩ := exists_line_eq_ok htime hmessage.filled hplain hshort
    exact ⟨cs, _, hline, hprintable, hparse, lineMembers_nodup, fun _ _ => mem_lineMembers_iff⟩

/-- An entry whose module looks like the end of a line and the start of another one. -/
def forgery : Entry where
  created := .int 0
  milliseconds := .int 7
  level := "WARNING"
  logger := "k6validator.analysis.structural"
  message := .str (Text.ofString "\"\n" ++ [.surrogate 1024, .surrogate 0])
  fields := [("import_module", .str "\"\x7d\n\x7b\"level\": \"INFO"), ("error_count", .int (-3))]
  cause := some ⟨"ValueError", [.surrogate 1024]⟩

private lemma forgery_plain : forgery.Plain (Text.ofString "\"\n" ++ [.surrogate 1024, .surrogate 0]) where
  level := (Text.hasUtf8_ofString _).pairless
  logger := (Text.hasUtf8_ofString _).pairless
  message := by decide
  field := by
    intro name _ v hv
    have hmem : (Text.ofString name, v) ∈ forgery.fields := mem_of_lookup hv
    simp only [forgery, List.mem_cons, Prod.mk.injEq, List.not_mem_nil, or_false] at hmem
    rcases hmem with ⟨-, rfl⟩ | ⟨-, rfl⟩
    · exact (Text.hasUtf8_ofString _).pairless
    · trivial
  cause := by
    intro c hc
    cases hc
    decide

theorem line_reads_back_forgery :
    Log.timestamp forgery.created forgery.milliseconds = .ok (Text.ofString "1970-01-01 00:00:00,007") ∧
      forgery.Says (Text.ofString "\"\n" ++ [.surrogate 1024, .surrogate 0]) ∧
      ∃ cs members, forgery.line = .ok cs ∧ (∀ c ∈ cs, 0x20 ≤ c.toNat ∧ c.toNat ≤ 0x7E) ∧
        (∀ depth, Json.parse (depth + 1) (Text.ofChars cs) = .ok (.obj members)) ∧ (members.map Prod.fst).Nodup ∧
        (Text.ofString "level", Json.str (Text.ofString "WARNING")) ∈ members ∧
        (Text.ofString "error_count", Json.int (-3)) ∈ members := by
  have htime : Log.timestamp forgery.created forgery.milliseconds = .ok (Text.ofString "1970-01-01 00:00:00,007") := rfl
  have hmessage : forgery.Says (Text.ofString "\"\n" ++ [.surrogate 1024, .surrogate 0]) := .text rfl rfl
  obtain ⟨cs, members, hline, hprintable, hparse, hnodup, hmembers⟩ :=
    (line_reads_back forgery _ _ htime hmessage forgery_plain).2 (by
      intro name n hshows
      cases hshows with
      | field _ hfield =>
        have hmem := mem_of_lookup hfield
        simp only [forgery, List.mem_cons, Prod.mk.injEq, List.not_mem_nil, or_false, reduceCtorEq, and_false, false_or,
          Json.int.injEq] at hmem
        rw [hmem.2]
        decide)
  have hknown : "error_count" ∈ knownFields := by decide
  exact ⟨htime, hmessage, cs, members, hline, hprintable, hparse, hnodup, (hmembers _ _).mpr .level,
    (hmembers _ _).mpr (.field hknown rfl)⟩

/-- An entry of the server with nothing but a message and fields. -/
def ofServer (message : Json) (fields : List (Text × Json)) : Entry where
  created := .int 0
  milliseconds := .int 0
  level := "INFO"
  logger := "k6validator.server"
  message := message
  fields := fields

private lemma ofServer_plain {message : Json} {t : Text} (ht : t.HasUtf8) {fields : List (Text × Json)}
    (hfields : ∀ m ∈ fields, m.2.IsPlain) : (ofServer message fields).Plain t where
  level := (Text.hasUtf8_ofString _).pairless
  logger := (Text.hasUtf8_ofString _).pairless
  message := ht.pairless
  field := fun _ _ v hv => hfields (_, v) (mem_of_lookup hv)
  cause := nofun

/-- An integer is not always read back as it was: as a message it becomes a text, and with too many digits it takes the
whole line with it. -/
theorem integers_not_read_back :
    (∃ cs members, (ofServer (.int 5) []).line = .ok cs ∧
        (∀ depth, Json.parse (depth + 1) (Text.ofChars cs) = .ok (.obj members)) ∧
        (Text.ofString "message", Json.str (Text.ofString "5")) ∈ members ∧
        (Text.ofString "message", Json.int 5) ∉ members) ∧
      ∃ n, (ofServer (.str "x") [("error_count", .int n)]).line = .error (.template .tooManyDigits) := by
  have htime : Log.timestamp (.int 0) (.int 0) = .ok (Text.ofString "1970-01-01 00:00:00,000") := rfl
  constructor
  · have hfilled : (ofServer (.int 5) []).filled = .ok (Text.ofString "5") := rfl
    have hplain : (ofServer (.int 5) []).Plain (Text.ofString "5") := ofServer_plain (Text.hasUtf8_ofString _) nofun
    obtain ⟨cs, hline, -, hparse⟩ := exists_line_eq_ok htime hfilled hplain (by
      intro name n hshows
      cases hshows with
      | field _ hfield => cases hfield)
    refine ⟨cs, _, hline, hparse, mem_lineMembers_iff.mpr .message, ?_⟩
    have hmembers : (ofServer (.int 5) []).lineMembers (Text.ofString "1970-01-01 00:00:00,000") (Text.ofString "5") =
        [(Text.ofString "timestamp", .str (Text.ofString "1970-01-01 00:00:00,000")),
          (Text.ofString "level", .str (Text.ofString "INFO")),
          (Text.ofString "logger", .str (Text.ofString "k6validator.server")),
          (Text.ofString "message", .str (Text.ofString "5"))] := rfl
    rw [hmembers]
    simp
  · obtain ⟨n, hlong⟩ := exists_isOverlong
    have hfilled : (ofServer (.str "x") [("error_count", .int n)]).filled = .ok (Text.ofString "x") := rfl
    have hplain : (ofServer (.str "x") [("error_count", .int n)]).Plain (Text.ofString "x") :=
      ofServer_plain (Text.hasUtf8_ofString _) (by simp [Json.IsPlain])
    have hknown : "error_count" ∈ knownFields := by decide
    have hmem := (mem_integers_iff hplain (timestamp_hasUtf8 htime)).mpr ⟨_, .field hknown rfl⟩
    exact ⟨n, by rw [line_eq htime hfilled, if_pos (List.any_eq_true.mpr ⟨n, hmem, hlong⟩)]⟩

end Entry

end ScriptVet.Log
