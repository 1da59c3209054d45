import Mathlib.Data.Nat.Find
import ScriptVet.Proofs.DecimalIntegers
import ScriptVet.Service.Request

/-!
# Reading a body no further than its limit

The body of a request comes in chunks. A declared length that is no integer, or is over the limit, ends the reading
before it begins. Otherwise chunks are taken while their sum is within the limit: `takeMessages_append` is the step,
for any number of chunks that fit, and `takeMessages_of_passesAt` says where the reading of larger bodies ends.
`readBody_bounded` puts this together for every header and every way to cut a body into chunks.
-/

namespace ScriptVet.Request

/-! ## Declared lengths -/

/-- The request declares a length that is no integer. -/
def DeclaresNoLength (r : Request) : Prop := ∃ t, r.header? "content-length" = some t ∧ ∀ n, ¬ Number.Writes t n

/-- The request declares a length over the limit. -/
def DeclaresOver (r : Request) (limit : Nat) : Prop :=
  ∃ t n, r.header? "content-length" = some t ∧ Number.Writes t n ∧ (limit : Int) < n

/-- The request declares no length, or one that is not over the limit. It may be less than the body has, or negative. -/
def DeclaresWithin (r : Request) (limit : Nat) : Prop :=
  ∀ t, r.header? "content-length" = some t → ∃ n, Number.Writes t n ∧ n ≤ (limit : Int)

/-- A request declares no number, a number over the limit, or nothing that stands in the way. -/
theorem declares_cases (r : Request) (limit : Nat) :
    r.DeclaresNoLength ∨ r.DeclaresOver limit ∨ r.DeclaresWithin limit := by
  cases ht : r.header? "content-length" with
  | none => exact Or.inr (Or.inr fun t h => by rw [ht] at h; cases h)
  | some t =>
    by_cases hn : ∃ n, Number.Writes t n
    · obtain ⟨n, hn⟩ := hn
      by_cases hlimit : n ≤ (limit : Int)
      · refine Or.inr (Or.inr fun u hu => ⟨n, ?_, hlimit⟩)
        rw [ht] at hu
        exact Option.some.inj hu ▸ hn
      · exact Or.inr (Or.inl ⟨t, n, ht, hn, by omega⟩)
    · exact Or.inl ⟨t, ht, not_exists.mp hn⟩

/-- A declared length that is no number is refused before a message is taken. -/
theorem readBody_of_declaresNoLength {r : Request} (h : r.DeclaresNoLength) (limit : Nat) :
    r.readBody limit = ⟨.error .badLength, 0⟩ := by
  obtain ⟨t, ht, hnot⟩ := h
  unfold readBody
  rw [ht]
  dsimp only
  cases hread : Number.ofText 10 t with
  | error e => rfl
  | ok n => exact absurd (Number.ofText_eq_ok_iff.mp hread) (hnot n)

/-- A declared length over the limit is refused before a message is taken. -/
theorem readBody_of_declaresOver {r : Request} {limit : Nat} (h : r.DeclaresOver limit) :
    r.readBody limit = ⟨.error .tooLarge, 0⟩ := by
  obtain ⟨t, n, ht, hn, hlimit⟩ := h
  unfold readBody
  rw [ht]
  dsimp only
  rw [Number.ofText_eq_ok_iff.mpr hn]
  exact if_pos hlimit

/-- Otherwise the messages decide. -/
lemma readBody_of_declaresWithin {r : Request} {limit : Nat} (h : r.DeclaresWithin limit) :
    r.readBody limit = takeMessages limit 0 0 [] r.messages := by
  unfold readBody
  split
  · rfl
  · next t ht =>
    obtain ⟨n, hn, hlimit⟩ := h t ht
    rw [Number.ofText_eq_ok_iff.mpr hn]
    exact if_neg (by omega)

/-! ## Taking chunks -/

/-- Chunks are taken as long as their sum stays within the limit, whatever comes after them. -/
lemma takeMessages_append {limit : Nat} (chunks : List (List UInt8)) (tail : List Message) (received taken : Nat)
    (done : List (List UInt8)) (h : received + chunks.flatten.length ≤ limit) :
    takeMessages limit received taken done (chunks.map Message.chunk ++ tail) =
      takeMessages limit (received + chunks.flatten.length) (taken + chunks.length) (chunks.reverse ++ done) tail := by
  induction chunks generalizing received taken done with
  | nil => simp
  | cons bytes rest ih =>
    rw [List.flatten_cons, List.length_append] at h
    rw [List.map_cons, List.cons_append, takeMessages, if_neg (by omega), ih _ _ _ (by omega)]
    simp only [List.flatten_cons, List.length_append, List.length_cons, List.reverse_cons, List.append_assoc,
      List.singleton_append, Nat.add_assoc, Nat.add_comm 1]

/-- The sum of the chunks passes the limit with the chunk at place `k`, counted from one, and not before. -/
structure PassesAt (limit : Nat) (chunks : List (List UInt8)) (k : Nat) : Prop where
  passed : limit < (chunks.take k).flatten.length
  before : ∀ j < k, (chunks.take j).flatten.length ≤ limit

/-- Chunks with more bytes than the limit pass it at some chunk. -/
lemma exists_passesAt {limit : Nat} {chunks : List (List UInt8)} (h : limit < chunks.flatten.length) :
    ∃ k, PassesAt limit chunks k := by
  have hover : ∃ k, limit < (chunks.take k).flatten.length := ⟨chunks.length, by rwa [List.take_length]⟩
  exact ⟨Nat.find hover, Nat.find_spec hover, fun j hj => Nat.le_of_not_lt (Nat.find_min hover hj)⟩

/-- The reading ends with the chunk that passes the limit. What follows is not looked at. -/
lemma takeMessages_of_passesAt {limit k : Nat} {chunks : List (List UInt8)} (h : PassesAt limit chunks k)
    (tail : List Message) :
    takeMessages limit 0 0 [] (chunks.map Message.chunk ++ tail) = ⟨.error .tooLarge, k⟩ := by
  obtain ⟨hover, hbefore⟩ := h
  cases k with
  | zero => simp at hover
  | succ j =>
    have hfits := hbefore j (by omega)
    have hj : j < chunks.length := by
      by_contra hle
      rw [List.take_of_length_le (by omega)] at hover hfits
      omega
    have hsplit : chunks = chunks.take j ++ chunks[j] :: chunks.drop (j + 1) := by
      rw [List.getElem_cons_drop, List.take_append_drop]
    have hlength : (chunks.take j).length = j := by rw [List.length_take]; omega
    rw [List.take_succ_eq_append_getElem hj, List.flatten_append, List.length_append, List.flatten_singleton] at hover
    rw [hsplit, List.map_append, List.append_assoc, takeMessages_append _ _ 0 0 [] (by omega), List.map_cons,
      List.cons_append, takeMessages, if_pos (by omega), hlength, Nat.zero_add]

/-- Chunks within the limit are all taken. -/
lemma takeMessages_of_le {limit : Nat} {chunks : List (List UInt8)} (h : chunks.flatten.length ≤ limit) :
    takeMessages limit 0 0 [] (chunks.map Message.chunk) = ⟨.ok chunks.flatten, chunks.length⟩ := by
  have htake := @takeMessages_append limit chunks [] 0 0 [] (by omega)
  rw [List.append_nil] at htake
  rw [htake, takeMessages]
  simp

/-! ## Any messages -/

/-- The request brings a body: all its messages are chunks, and together they are the body. -/
def Brings (r : Request) (body : List UInt8) : Prop :=
  ∃ chunks : List (List UInt8), r.messages = chunks.map Message.chunk ∧ body = chunks.flatten

/-- The chunks that a request starts with have more bytes than the limit. -/
def ReceivesOver (r : Request) (limit : Nat) : Prop :=
  ∃ (chunks : List (List UInt8)) (rest : List Message),
    r.messages = chunks.map Message.chunk ++ rest ∧ limit < chunks.flatten.length

section Messages

variable {r : Request} {limit : Nat}

lemma Brings.receivesOver {body : List UInt8} (h : r.Brings body) (hover : limit < body.length) :
    r.ReceivesOver limit := by
  obtain ⟨chunks, hmessages, rfl⟩ := h
  exact ⟨chunks, [], by rw [hmessages, List.append_nil], hover⟩

/-- A body over the limit is refused, whatever comes behind the chunk that passes it. -/
theorem readBody_of_receivesOver (h : r.DeclaresWithin limit) (hover : r.ReceivesOver limit) :
    (r.readBody limit).result = .error .tooLarge := by
  obtain ⟨chunks, rest, hmessages, hlimit⟩ := hover
  obtain ⟨k, hk⟩ := exists_passesAt hlimit
  rw [readBody_of_declaresWithin h, hmessages, takeMessages_of_passesAt hk]

/-- A body within the limit is read. -/
theorem readBody_of_brings (h : r.DeclaresWithin limit) {body : List UInt8} (hbody : r.Brings body)
    (hfits : body.length ≤ limit) : (r.readBody limit).result = .ok body := by
  obtain ⟨chunks, hmessages, rfl⟩ := hbody
  rw [readBody_of_declaresWithin h, hmessages, takeMessages_of_le hfits]

end Messages

/-! ## Bodies in chunks -/

/-- The request with a body in these chunks. -/
def sending (r : Request) (chunks : List (List UInt8)) : Request := { r with messages := chunks.map Message.chunk }

section Sending

variable {r : Request} {limit : Nat} {chunks : List (List UInt8)}

private lemma readBody_sending_of_lt (h : r.DeclaresWithin limit) (hover : limit < chunks.flatten.length) :
    ∃ k, PassesAt limit chunks k ∧ (r.sending chunks).readBody limit = ⟨.error .tooLarge, k⟩ := by
  obtain ⟨k, hk⟩ := exists_passesAt hover
  have hend := takeMessages_of_passesAt hk []
  rw [List.append_nil] at hend
  exact ⟨k, hk, (readBody_of_declaresWithin (r := r.sending chunks) h).trans hend⟩

private lemma readBody_sending_of_le (h : r.DeclaresWithin limit) (hfits : chunks.flatten.length ≤ limit) :
    (r.sending chunks).readBody limit = ⟨.ok chunks.flatten, chunks.length⟩ :=
  (readBody_of_declaresWithin (r := r.sending chunks) h).trans (takeMessages_of_le hfits)

/-- What is read is the body itself, and then it is within the limit. -/
lemma eq_of_readBody_sending {body : List UInt8} (h : ((r.sending chunks).readBody limit).result = .ok body) :
    body = chunks.flatten ∧ body.length ≤ limit := by
  rcases r.declares_cases limit with hno | hover | hwithin
  · rw [readBody_of_declaresNoLength (r := r.sending chunks) hno] at h
    cases h
  · rw [readBody_of_declaresOver (r := r.sending chunks) hover] at h
    cases h
  · by_cases hfits : chunks.flatten.length ≤ limit
    · rw [readBody_sending_of_le hwithin hfits] at h
      obtain rfl := Except.ok.inj h
      exact ⟨rfl, hfits⟩
    · obtain ⟨k, -, hk⟩ := readBody_sending_of_lt hwithin (Nat.lt_of_not_le hfits)
      rw [hk] at h
      cases h

/-- Only the bytes of a body matter, not where it is cut. -/
lemma readBody_sending_congr {others : List (List UInt8)} (h : others.flatten = chunks.flatten) :
    ((r.sending others).readBody limit).result = ((r.sending chunks).readBody limit).result := by
  rcases r.declares_cases limit with hno | hover | hwithin
  · rw [readBody_of_declaresNoLength (r := r.sending others) hno,
      readBody_of_declaresNoLength (r := r.sending chunks) hno]
  · rw [readBody_of_declaresOver (r := r.sending others) hover, readBody_of_declaresOver (r := r.sending chunks) hover]
  · by_cases hfits : chunks.flatten.length ≤ limit
    · rw [readBody_sending_of_le hwithin hfits, readBody_sending_of_le hwithin (by rwa [h]), h]
    · obtain ⟨k, -, hk⟩ := readBody_sending_of_lt hwithin (Nat.lt_of_not_le hfits)
      have hother : limit < others.flatten.length := by rw [h]; exact Nat.lt_of_not_le hfits
      obtain ⟨j, -, hj⟩ := readBody_sending_of_lt hwithin hother
      rw [hk, hj]

end Sending

/-- **A body is read no further than its limit, however it is cut.** A declared length that is no integer, or is over
the limit, is refused before any chunk is taken. Otherwise a body over the limit is refused with the first chunk that takes
the sum over it, and any other body is read whole. So whatever length is declared, nothing over the limit is read, and
two ways to cut a body give the same result. -/
theorem readBody_bounded (limit : Nat) (r : Request) (chunks : List (List UInt8)) :
    let read := (r.sending chunks).readBody limit
    (r.DeclaresNoLength → read = ⟨.error .badLength, 0⟩) ∧
      (r.DeclaresOver limit → read = ⟨.error .tooLarge, 0⟩) ∧
      (r.DeclaresWithin limit → limit < chunks.flatten.length →
        ∃ k, PassesAt limit chunks k ∧ read = ⟨.error .tooLarge, k⟩) ∧
      (r.DeclaresWithin limit → chunks.flatten.length ≤ limit → read = ⟨.ok chunks.flatten, chunks.length⟩) ∧
      (r.DeclaresNoLength ∨ r.DeclaresOver limit ∨ r.DeclaresWithin limit) ∧
      (∀ body, read.result = .ok body → body = chunks.flatten ∧ body.length ≤ limit) ∧
      ∀ others : List (List UInt8), others.flatten = chunks.flatten →
        ((r.sending others).readBody limit).result = read.result := by
  intro read
  refine ⟨fun h => ?_, fun h => ?_, readBody_sending_of_lt, readBody_sending_of_le, r.declares_cases limit,
    fun body => ?_, fun others => readBody_sending_congr⟩
  · exact readBody_of_declaresNoLength (r := r.sending chunks) h limit
  · exact readBody_of_declaresOver (r := r.sending chunks) h
  · exact eq_of_readBody_sending

/-- A request that declares a length below that of any body. -/
def lyingRequest : Request := { headers := [(Text.ofString "Content-Length", Text.ofString " -3")] }

theorem readBody_bounded_lyingRequest :
    lyingRequest.DeclaresWithin 5 ∧
      ∃ k, PassesAt 5 [[1, 2], [], [3, 4, 5, 6], [7]] k ∧
        (lyingRequest.sending [[1, 2], [], [3, 4, 5, 6], [7]]).readBody 5 = ⟨.error .tooLarge, k⟩ := by
  have hheader : lyingRequest.header? "content-length" = some (Text.ofString " -3") := by decide +kernel
  have hdeclares : lyingRequest.DeclaresWithin 5 := by
    intro t ht
    obtain rfl := Option.some.inj (hheader.symm.trans ht)
    exact ⟨-3, Number.ofText_eq_ok_iff.mp (by decide), by decide⟩
  obtain ⟨-, -, hover, -⟩ := readBody_bounded 5 lyingRequest [[1, 2], [], [3, 4, 5, 6], [7]]
  exact ⟨hdeclares, hover hdeclares (by decide)⟩

end ScriptVet.Request
