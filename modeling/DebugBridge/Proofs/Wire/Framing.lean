import DebugBridge.Wire.Tracking
import Mathlib.Tactic.SplitIfs

/-!
# Frames are read as they are written

A read of a stream depends on the bytes that will come and on what comes after them, not on how they
are cut into chunks. It takes some bytes off the front and gives a value (`Read.Gives`), or it gives
none (`Read.Stops`).

What a request and a payload have in common is the frame: a length in four hexadecimal digits, and so
many bytes (`IsFrame`). The writer uses capital digits and the reader takes either; `Bytes.capitals`
is all that lies between the two.

Results:
* `lengthPrefix?_eq_ok_iff`: four bytes announce a length exactly if their capitals are its digits.
* `Read.gives_frame_iff`: a payload is read exactly where its frame stands, and nothing more is taken.
* `Read.listings_of_framed`: so are the payloads of frames that stand one after the other.
* `Read.gives_okay_iff`, `Read.gives_fail_iff`: an answer to a request is read where its token stands.
* `framing_roundTrip`: requests, frames and answers together.
-/

namespace DebugBridge

/-! ## Frames -/

/-- A byte, or its capital if it is a small letter. -/
def Bytes.capital (c : UInt8) : UInt8 := if 0x61 ≤ c ∧ c ≤ 0x7A then c - 0x20 else c

/-- A byte string with the small letters made capitals. -/
def Bytes.capitals (b : Bytes) : Bytes := b.map capital

/-- A length in four hexadecimal digits, as it stands before a request. -/
def lengthDigits (n : Nat) : Bytes :=
  Bytes.ofString (String.ofList (Text.fourDigits Text.hexDigitUpper n))

/-- A payload with its length before it, in four hexadecimal digits of either case. -/
def IsFrame (frame payload : Bytes) : Prop :=
  payload.length ≤ longestRequest ∧
    ∃ digits, frame = digits ++ payload ∧ Bytes.capitals digits = lengthDigits payload.length

/-- A byte string consists of the frames of some payloads, one after the other, and a rest. -/
inductive Framed : Bytes → List Bytes → Bytes → Prop
  | nil (rest : Bytes) : Framed rest [] rest
  | cons {frame payload b rest : Bytes} {payloads : List Bytes} (h : IsFrame frame payload)
    (hb : Framed b payloads rest) : Framed (frame ++ b) (payload :: payloads) rest

/-- No frame stands at the front. -/
def NoFrame (b : Bytes) : Prop := ∀ frame payload, IsFrame frame payload → ¬ frame <+: b

/-! ## Digits -/

/-- The byte of a capital hexadecimal digit. -/
def hexByte (d : Nat) : UInt8 := UInt8.ofNat (Text.hexDigitUpper d).toNat

theorem utf8EncodeChar_hexDigit : ∀ d < 16,
    String.utf8EncodeChar (Text.hexDigitUpper d) = [hexByte d] := by
  decide

theorem lengthDigits_eq (n : Nat) : lengthDigits n =
    [hexByte (n / 4096 % 16), hexByte (n / 256 % 16), hexByte (n / 16 % 16), hexByte (n % 16)] := by
  have hdigit := fun m => utf8EncodeChar_hexDigit (m % 16) (Nat.mod_lt m (by omega))
  rw [lengthDigits, Bytes.ofString_eq_flatMap, String.toList_ofList, Text.fourDigits]
  simp only [List.flatMap_cons, List.flatMap_nil, hdigit, List.cons_append, List.nil_append]

theorem hexDigit?_lt : ∀ i < 256, ∀ d ∈ Text.hexDigit? (Char.ofNat i), d < 16 := by
  decide +kernel

theorem hexDigit?_iff_capital : ∀ i < 256, ∀ d < 16,
    Text.hexDigit? (Char.ofNat i) = some d ↔ Bytes.capital (UInt8.ofNat i) = hexByte d := by
  decide +kernel

/-- A byte counts as a digit exactly if its capital is the digit as it is written. -/
theorem hexDigit?_eq_some_iff {b : UInt8} {d : Nat} :
    Text.hexDigit? (Char.ofNat b.toNat) = some d ↔ d < 16 ∧ Bytes.capital b = hexByte d := by
  have hall := hexDigit?_iff_capital b.toNat b.toNat_lt
  rw [UInt8.ofNat_toNat] at hall
  constructor
  · intro h
    have hd := hexDigit?_lt b.toNat b.toNat_lt d h
    exact ⟨hd, (hall d hd).1 h⟩
  · rintro ⟨hd, h⟩
    exact (hall d hd).2 h

theorem length_capitals (b : Bytes) : (Bytes.capitals b).length = b.length := List.length_map _

theorem length_eq_four {digits : Bytes} {n : Nat} (h : Bytes.capitals digits = lengthDigits n) :
    digits.length = 4 := by
  rw [← length_capitals, h, lengthDigits_eq]
  rfl

theorem IsFrame.length_eq {frame payload : Bytes} (h : IsFrame frame payload) :
    frame.length = 4 + payload.length := by
  obtain ⟨-, digits, rfl, hdigits⟩ := h
  rw [List.length_append, length_eq_four hdigits]

/-- Every byte string consists of some frames, and a rest with no frame at its front. -/
theorem exists_framed (b : Bytes) : ∃ payloads rest, Framed b payloads rest ∧ NoFrame rest := by
  by_cases hfirst : ∃ frame payload, IsFrame frame payload ∧ frame <+: b
  · obtain ⟨frame, payload, hframe, tail, rfl⟩ := hfirst
    have hshorter : tail.length < (frame ++ tail).length := by
      rw [List.length_append, hframe.length_eq]
      omega
    obtain ⟨payloads, rest, hframed, hrest⟩ := exists_framed tail
    exact ⟨payload :: payloads, rest, .cons hframe hframed, hrest⟩
  · exact ⟨[], b, .nil b, fun frame payload hframe hle => hfirst ⟨frame, payload, hframe, hle⟩⟩
termination_by b.length

theorem hexadecimal?_four {c₁ c₂ c₃ c₄ : Char} {n : Nat} :
    Text.hexadecimal? [c₁, c₂, c₃, c₄] = some n ↔
      ∃ d₁ d₂ d₃ d₄, Text.hexDigit? c₁ = some d₁ ∧ Text.hexDigit? c₂ = some d₂ ∧
        Text.hexDigit? c₃ = some d₃ ∧ Text.hexDigit? c₄ = some d₄ ∧
        n = ((d₁ * 16 + d₂) * 16 + d₃) * 16 + d₄ := by
  rw [Text.hexadecimal?, List.isEmpty_cons, if_neg Bool.false_ne_true]
  simp only [Text.digits?]
  cases Text.hexDigit? c₁ <;> cases Text.hexDigit? c₂ <;> cases Text.hexDigit? c₃ <;>
    cases Text.hexDigit? c₄ <;> simp [eq_comm]

/-- Four bytes announce a length exactly if their capitals are its digits. -/
theorem lengthPrefix?_eq_ok_iff {digits : Bytes} {n : Nat} :
    lengthPrefix? digits = .ok n ↔
      n ≤ longestRequest ∧ Bytes.capitals digits = lengthDigits n := by
  have hlong : longestRequest = 65535 := rfl
  by_cases hlen : digits.length = 4
  · obtain ⟨b₁, b₂, b₃, b₄, rfl⟩ : ∃ b₁ b₂ b₃ b₄, digits = [b₁, b₂, b₃, b₄] := by
      match digits, hlen with
      | [b₁, b₂, b₃, b₄], _ => exact ⟨b₁, b₂, b₃, b₄, rfl⟩
    have hvalue : lengthPrefix? [b₁, b₂, b₃, b₄] = .ok n ↔
        Text.hexadecimal? [Char.ofNat b₁.toNat, Char.ofNat b₂.toNat, Char.ofNat b₃.toNat,
          Char.ofNat b₄.toNat] = some n := by
      simp only [lengthPrefix?, List.map_cons, List.map_nil, List.length_cons, List.length_nil,
        if_true]
      split <;> simp_all
    rw [hvalue, hexadecimal?_four, lengthDigits_eq, hlong]
    simp only [hexDigit?_eq_some_iff, Bytes.capitals, List.map_cons, List.map_nil, List.cons.injEq]
    constructor
    · rintro ⟨d₁, d₂, d₃, d₄, ⟨h₁, e₁⟩, ⟨h₂, e₂⟩, ⟨h₃, e₃⟩, ⟨h₄, e₄⟩, hn⟩
      rw [e₁, e₂, e₃, e₄, show n / 4096 % 16 = d₁ by omega, show n / 256 % 16 = d₂ by omega,
        show n / 16 % 16 = d₃ by omega, show n % 16 = d₄ by omega]
      exact ⟨by omega, rfl, rfl, rfl, rfl, trivial⟩
    · rintro ⟨hn, e₁, e₂, e₃, e₄, -⟩
      exact ⟨n / 4096 % 16, n / 256 % 16, n / 16 % 16, n % 16, ⟨by omega, e₁⟩, ⟨by omega, e₂⟩,
        ⟨by omega, e₃⟩, ⟨by omega, e₄⟩, by omega⟩
  · constructor
    · intro h
      simp only [lengthPrefix?, List.length_map, if_neg hlen] at h
      cases h
    · rintro ⟨-, h⟩
      exact absurd (length_eq_four h) hlen

/-- There is no frame where no length can be read. -/
theorem noFrame_of_error {b : Bytes} {e : Error} (h : lengthPrefix? (b.take 4) = .error e) :
    NoFrame b := by
  rintro frame payload ⟨hlong, digits, rfl, hdigits⟩ ⟨tail, rfl⟩
  have hfour := length_eq_four hdigits
  rw [List.append_assoc, List.take_append_of_le_length (by omega),
    List.take_of_length_le (by omega), lengthPrefix?_eq_ok_iff.2 ⟨hlong, hdigits⟩] at h
  cases h

theorem lengthPrefix?_error {digits : Bytes} {e : Error} (h : lengthPrefix? digits = .error e) :
    ∃ detail, e = .protocol detail := by
  unfold lengthPrefix? at h
  simp only at h
  split at h
  · cases h
  · cases h
    exact ⟨_, rfl⟩

/-- Each byte of a length is a hexadecimal digit. -/
theorem isSome_hexDigit? {digits : Bytes} {n : Nat} (h : Bytes.capitals digits = lengthDigits n) :
    ∀ b ∈ digits, (Text.hexDigit? (Char.ofNat b.toNat)).isSome = true := by
  intro b hb
  have hmem : Bytes.capital b ∈ lengthDigits n := h ▸ List.mem_map_of_mem hb
  obtain ⟨m, hm⟩ : ∃ m, Bytes.capital b = hexByte (m % 16) := by
    rw [lengthDigits_eq] at hmem
    simp only [List.mem_cons, List.not_mem_nil, or_false] at hmem
    rcases hmem with hmem | hmem | hmem | hmem <;> exact ⟨_, hmem⟩
  rw [hexDigit?_eq_some_iff.2 ⟨Nat.mod_lt m (by omega), hm⟩]
  rfl

/-! ## What a read takes -/

namespace Read

variable {α β : Type} {r : Read α} {s : Stream} {a : α} {rest : Bytes}

/-- A read gives a value and leaves `rest` to be read, and the end as it is. -/
def Gives (r : Read α) (s : Stream) (a : α) (rest : Bytes) : Prop :=
  ∃ s', r.run s = (.ok a, s') ∧ s'.bytes = rest ∧ s'.ending = s.ending

/-- A read gives no value. If the other side has closed it says that the protocol was broken. -/
def Stops (r : Read α) (s : Stream) : Prop :=
  ∃ e, (r.run s).1 = .error e ∧
    (s.ending = .closed → ∃ detail, e = .failed (.protocol detail))

theorem Gives.not_stops (h : Gives r s a rest) : ¬ Stops r s := by
  rintro ⟨e, he, -⟩
  obtain ⟨s', hs', -⟩ := h
  rw [hs'] at he
  cases he

theorem Gives.unique {a' : α} {rest' : Bytes} (h : Gives r s a rest) (h' : Gives r s a' rest') :
    a' = a ∧ rest' = rest := by
  obtain ⟨s₁, h₁, rfl, -⟩ := h
  obtain ⟨s₂, h₂, rfl, -⟩ := h'
  rw [h₁] at h₂
  cases h₂
  exact ⟨rfl, rfl⟩

theorem gives_pure (a : α) (s : Stream) : Gives (pure a) s a s.bytes := ⟨s, rfl, rfl, rfl⟩

theorem stops_fail (detail : String) (s : Stream) :
    Stops (fail (.protocol detail) : Read α) s :=
  ⟨_, rfl, fun _ => ⟨detail, rfl⟩⟩

/-- After a read that gives a value comes what is done with it. -/
theorem Gives.bind {f : α → Read β} {b : β} {last : Bytes} (h : Gives r s a rest)
    (hf : ∀ s', s'.bytes = rest → Gives (f a) s' b last) : Gives (r >>= f) s b last := by
  obtain ⟨s₁, hr, hbytes, hending⟩ := h
  obtain ⟨s₂, hf, hbytes₂, hending₂⟩ := hf s₁ hbytes
  exact ⟨s₂, (run_bind_ok hr f).trans hf, hbytes₂, hending₂.trans hending⟩

theorem Gives.bind_stops {f : α → Read β} (h : Gives r s a rest)
    (hf : ∀ s', s'.bytes = rest → Stops (f a) s') : Stops (r >>= f) s := by
  obtain ⟨s', hr, hbytes, hending⟩ := h
  obtain ⟨e, he, hclosed⟩ := hf s' hbytes
  refine ⟨e, ?_, fun h => hclosed (hending.trans h)⟩
  rw [run_bind_ok hr]
  exact he

theorem Stops.bind (h : Stops r s) (f : α → Read β) : Stops (r >>= f) s := by
  obtain ⟨e, he, hclosed⟩ := h
  refine ⟨e, ?_, hclosed⟩
  rcases hr : r.run s with ⟨x, s'⟩
  rw [hr] at he
  cases he
  rw [run_bind, hr]

end Read

/-! ## Bytes of a known number -/

/-- Why there is no value if the bytes end within so many that are read at once. -/
def Ending.shortfall : Ending → Nat → Stall
  | .closed, size => .failed (.protocol s!"stream ended after fewer than {size} bytes")
  | .silent, _ => .waiting

namespace Stream

/-- However the bytes are cut, a read of so many fails only if there are fewer. -/
theorem takeExact_eq_none_iff {n : Nat} {ready : Bytes} {later : List Bytes} :
    takeExact n ready later = none ↔ (ready ++ later.flatten).length < n := by
  induction later generalizing n ready with
  | nil =>
    simp only [takeExact, List.length_take, List.flatten_nil, List.append_nil]
    split_ifs <;> simp <;> omega
  | cons chunk later ih =>
    simp only [takeExact, List.length_take, List.flatten_cons, List.length_append]
    split_ifs with hready
    · simp
      omega
    · rw [Option.map_eq_none_iff, ih, List.length_append]
      omega

theorem take?_eq_none_iff {s : Stream} {n : Nat} : s.take? n = none ↔ s.bytes.length < n := by
  rw [take?, Option.map_eq_none_iff, takeExact_eq_none_iff, bytes]

/-- What is taken stands at the front, and what is left stands behind it. -/
theorem bytes_of_take? {s s' : Stream} {n : Nat} {b : Bytes} (h : s.take? n = some (b, s')) :
    b.length = n ∧ s.bytes = b ++ s'.bytes ∧ s'.ending = s.ending := by
  obtain ⟨⟨b, r, l⟩, htake, he⟩ := Option.map_eq_some_iff.1 h
  cases he
  obtain ⟨hlen, hbytes⟩ := takeExact_bytes htake
  exact ⟨hlen, hbytes.symm, rfl⟩

end Stream

namespace Read

theorem gives_exactly {n : Nat} {s : Stream} (h : n ≤ s.bytes.length) :
    ∃ front rest, front.length = n ∧ s.bytes = front ++ rest ∧ Gives (exactly n) s front rest := by
  cases htake : s.take? n with
  | none =>
    have := Stream.take?_eq_none_iff.1 htake
    omega
  | some found =>
    obtain ⟨front, s'⟩ := found
    obtain ⟨hlen, hbytes, hending⟩ := Stream.bytes_of_take? htake
    exact ⟨front, s'.bytes, hlen, hbytes, s', exactly_of_take? htake, rfl, hending⟩

/-- A read of more bytes than there are. -/
theorem exactly_of_lt {n : Nat} {s : Stream} (h : s.bytes.length < n) :
    (exactly n).run s = (.error (s.ending.shortfall n), s.exhausted) := by
  have hnone : s.take? n = none := Stream.take?_eq_none_iff.2 h
  simp only [exactly, ExceptT.run, hnone]
  cases s.ending <;> rfl

theorem stops_exactly {n : Nat} {s : Stream} (h : s.bytes.length < n) : Stops (exactly n) s := by
  refine ⟨s.ending.shortfall n, by rw [exactly_of_lt h], fun hclosed => ?_⟩
  rw [hclosed]
  exact ⟨_, rfl⟩

theorem gives_exactly_append {s : Stream} {front rest : Bytes} (h : s.bytes = front ++ rest) :
    Gives (exactly front.length) s front rest := by
  have hle : front.length ≤ s.bytes.length := by
    rw [h, List.length_append]
    omega
  obtain ⟨front', rest', hlen, hbytes, hgives⟩ := gives_exactly hle
  obtain ⟨rfl, rfl⟩ := List.append_inj (h.symm.trans hbytes) hlen.symm
  exact hgives

/-! ## Frames -/

theorem gives_length {s : Stream} {digits rest : Bytes} {n : Nat} (hn : n ≤ longestRequest)
    (hdigits : Bytes.capitals digits = lengthDigits n) (h : s.bytes = digits ++ rest) :
    Gives length s n rest := by
  have hexact := gives_exactly_append h
  rw [length_eq_four hdigits] at hexact
  refine hexact.bind fun s' hs' => ?_
  rw [lengthPrefix?_eq_ok_iff.2 ⟨hn, hdigits⟩, ← hs']
  exact gives_pure n s'

/-- A payload is read where its frame stands. -/
theorem gives_frame {s : Stream} {framed payload rest : Bytes} (hframe : IsFrame framed payload)
    (h : s.bytes = framed ++ rest) : Gives frame s payload rest := by
  obtain ⟨hlong, digits, rfl, hdigits⟩ := hframe
  rw [List.append_assoc] at h
  exact (gives_length hlong hdigits h).bind fun _ => gives_exactly_append

/-- Either the frame of a payload stands at the front, or no payload can be read. -/
theorem frame_cases (s : Stream) :
    (∃ framed payload rest, IsFrame framed payload ∧ s.bytes = framed ++ rest) ∨
      Stops frame s := by
  by_cases hfour : 4 ≤ s.bytes.length
  · obtain ⟨digits, rest, -, hbytes, hexact⟩ := gives_exactly hfour
    cases hvalue : lengthPrefix? digits with
    | error e =>
      obtain ⟨detail, rfl⟩ := lengthPrefix?_error hvalue
      refine .inr (Stops.bind (hexact.bind_stops fun s' _ => ?_) exactly)
      rw [hvalue]
      exact stops_fail detail s'
    | ok n =>
      obtain ⟨hlong, hdigits⟩ := lengthPrefix?_eq_ok_iff.1 hvalue
      by_cases hn : n ≤ rest.length
      · refine .inl ⟨digits ++ rest.take n, rest.take n, rest.drop n, ?_, ?_⟩
        · rw [IsFrame, List.length_take, Nat.min_eq_left hn]
          exact ⟨hlong, digits, rfl, hdigits⟩
        · rw [List.append_assoc, List.take_append_drop, hbytes]
      · refine .inr ((gives_length hlong hdigits hbytes).bind_stops fun s' hs' => ?_)
        apply stops_exactly
        rw [hs']
        omega
  · exact .inr (Stops.bind (Stops.bind (stops_exactly (by omega)) _) _)

/-- A payload is read exactly where its frame stands, and nothing more is taken. -/
theorem gives_frame_iff {s : Stream} {payload rest : Bytes} :
    Gives frame s payload rest ↔
      ∃ framed, IsFrame framed payload ∧ s.bytes = framed ++ rest := by
  constructor
  · intro h
    rcases frame_cases s with ⟨framed, payload', rest', hframe, hbytes⟩ | hstops
    · obtain ⟨rfl, rfl⟩ := h.unique (gives_frame hframe hbytes)
      exact ⟨framed, hframe, hbytes⟩
    · exact absurd hstops h.not_stops
  · rintro ⟨framed, hframe, hbytes⟩
    exact gives_frame hframe hbytes

example :
    frame.run ⟨Bytes.ofString "00", [Bytes.ofString "0ahost:", Bytes.ofString "stop!"], .silent⟩ =
      (.ok (Bytes.ofString "host:stop!"), ⟨[], [], .silent⟩) := rfl

theorem stops_frame {s : Stream} (h : NoFrame s.bytes) : Stops frame s := by
  rcases frame_cases s with ⟨framed, payload, rest, hframe, hbytes⟩ | hstops
  · exact absurd ⟨rest, hbytes.symm⟩ (h framed payload hframe)
  · exact hstops

/-- Frames that stand one after the other are read one after the other. What is read off each may be
anything that depends on the payload. -/
theorem listings_of_framed {r : Read α} {f : Bytes → α} {b rest : Bytes} {payloads : List Bytes}
    (hr : ∀ s payload rest, Gives frame s payload rest → Gives r s (f payload) rest)
    (hframed : Framed b payloads rest) {s : Stream} (hs : s.bytes = b) (n : Nat) :
    ∃ s', s'.bytes = rest ∧ s'.ending = s.ending ∧
      Tracking.listings r (payloads.length + n) s =
        ((payloads.map fun p => .ok (f p)) ++ (Tracking.listings r n s').1,
          (Tracking.listings r n s').2) := by
  induction hframed generalizing s with
  | nil rest => exact ⟨s, hs, rfl, by simp⟩
  | @cons framed payload b rest payloads hframe _ ih =>
    obtain ⟨s₁, hrun, hbytes, hending⟩ := hr s payload b (gives_frame hframe hs)
    obtain ⟨s₂, hbytes₂, hending₂, hlist⟩ := ih hbytes
    refine ⟨s₂, hbytes₂, hending₂.trans hending, ?_⟩
    rw [List.length_cons, Nat.add_right_comm, Tracking.listings, hrun]
    simp only [hlist]
    rfl

/-! ## Answers to requests -/

theorem gives_okay {s : Stream} {rest : Bytes} (h : s.bytes = okayToken ++ rest) :
    Gives status s .okay rest := by
  refine (gives_exactly_append h).bind fun s' hs' => ?_
  rw [if_pos rfl, ← hs']
  exact gives_pure _ s'

theorem gives_fail {s : Stream} {framed payload rest : Bytes} (hframe : IsFrame framed payload)
    (h : s.bytes = failToken ++ (framed ++ rest)) :
    Gives status s (.fail (Utf8.lossy payload)) rest := by
  refine (gives_exactly_append h).bind fun s' hs' => ?_
  rw [if_neg (by decide), if_pos rfl]
  refine (gives_frame hframe hs').bind fun s'' hs'' => ?_
  rw [← hs'']
  exact gives_pure _ s''

/-- What the front of a stream can be to one who waits for an answer. -/
theorem status_cases (s : Stream) :
    (∃ rest, s.bytes = okayToken ++ rest) ∨
      (∃ framed payload rest, IsFrame framed payload ∧
        s.bytes = failToken ++ (framed ++ rest)) ∨ Stops status s := by
  by_cases hfour : 4 ≤ s.bytes.length
  · obtain ⟨token, rest, -, hbytes, hexact⟩ := gives_exactly hfour
    by_cases hokay : token = okayToken
    · exact .inl ⟨rest, hokay ▸ hbytes⟩
    by_cases hfail : token = failToken
    · subst hfail
      by_cases hframe : ∃ framed payload, IsFrame framed payload ∧ framed <+: rest
      · obtain ⟨framed, payload, hframe, last, rfl⟩ := hframe
        exact .inr (.inl ⟨framed, payload, last, hframe, hbytes⟩)
      · refine .inr (.inr (hexact.bind_stops fun s' hs' => ?_))
        rw [if_neg hokay, if_pos rfl]
        refine Stops.bind (stops_frame fun framed payload h hle => ?_) _
        exact hframe ⟨framed, payload, h, hs' ▸ hle⟩
    · refine .inr (.inr (hexact.bind_stops fun s' _ => ?_))
      rw [if_neg hokay, if_neg hfail]
      exact stops_fail _ s'
  · exact .inr (.inr (Stops.bind (stops_exactly (by omega)) _))

theorem gives_okay_iff {s : Stream} {rest : Bytes} :
    Gives status s .okay rest ↔ s.bytes = okayToken ++ rest := by
  refine ⟨fun h => ?_, gives_okay⟩
  rcases status_cases s with ⟨rest', hbytes⟩ | ⟨framed, payload, rest', hframe, hbytes⟩ | hstops
  · obtain ⟨-, rfl⟩ := h.unique (gives_okay hbytes)
    exact hbytes
  · cases (h.unique (gives_fail hframe hbytes)).1
  · exact absurd hstops h.not_stops

theorem gives_fail_iff {s : Stream} {message : String} {rest : Bytes} :
    Gives status s (.fail message) rest ↔
      ∃ framed payload, IsFrame framed payload ∧ message = Utf8.lossy payload ∧
        s.bytes = failToken ++ (framed ++ rest) := by
  constructor
  · intro h
    rcases status_cases s with ⟨rest', hbytes⟩ | ⟨framed, payload, rest', hframe, hbytes⟩ | hstops
    · cases (h.unique (gives_okay hbytes)).1
    · obtain ⟨hmessage, rfl⟩ := h.unique (gives_fail hframe hbytes)
      cases hmessage
      exact ⟨framed, payload, hframe, rfl, hbytes⟩
    · exact absurd hstops h.not_stops
  · rintro ⟨framed, payload, hframe, rfl, hbytes⟩
    exact gives_fail hframe hbytes

/-- What is no answer is an error once the other side has closed. -/
theorem error_of_no_status {s : Stream} (hclosed : s.ending = .closed)
    (h : ∀ a rest, ¬ Gives status s a rest) :
    ∃ detail, (status.run s).1 = .error (.failed (.protocol detail)) := by
  rcases status_cases s with ⟨rest, hbytes⟩ | ⟨framed, payload, rest, hframe, hbytes⟩ | hstops
  · exact absurd (gives_okay hbytes) (h _ _)
  · exact absurd (gives_fail hframe hbytes) (h _ _)
  · obtain ⟨e, he, hdetail⟩ := hstops
    obtain ⟨detail, rfl⟩ := hdetail hclosed
    exact ⟨detail, he⟩

end Read

/-! ## Requests -/

theorem encodeRequest_of_le {service : String}
    (h : (Bytes.ofString service).length ≤ longestRequest) :
    encodeRequest service =
      .ok (lengthDigits (Bytes.ofString service).length ++ Bytes.ofString service) :=
  if_neg (Nat.not_lt.2 h)

theorem encodeRequest_of_lt {service : String}
    (h : longestRequest < (Bytes.ofString service).length) :
    ∃ detail, encodeRequest service = .error (.protocol detail) :=
  ⟨_, if_pos h⟩

theorem capitals_lengthDigits (n : Nat) : Bytes.capitals (lengthDigits n) = lengthDigits n := by
  have hcapital : ∀ d < 16, Bytes.capital (hexByte d) = hexByte d := by decide
  have hdigit := fun m => hcapital (m % 16) (Nat.mod_lt m (by omega))
  rw [lengthDigits_eq]
  simp only [Bytes.capitals, List.map_cons, List.map_nil, hdigit]

theorem isFrame_lengthDigits {payload : Bytes} (h : payload.length ≤ longestRequest) :
    IsFrame (lengthDigits payload.length ++ payload) payload :=
  ⟨h, _, rfl, capitals_lengthDigits _⟩

/-- Services within the limit are all encoded, and their requests are frames. -/
theorem framed_requests {services : List String} (rest : Bytes)
    (h : ∀ service ∈ services, (Bytes.ofString service).length ≤ longestRequest) :
    ∃ requests, services.mapM encodeRequest = .ok requests ∧
      Framed (requests.flatten ++ rest) (services.map Bytes.ofString) rest := by
  induction services with
  | nil => exact ⟨[], rfl, .nil rest⟩
  | cons service services ih =>
    obtain ⟨hservice, hservices⟩ := List.forall_mem_cons.1 h
    obtain ⟨requests, hrequests, hframed⟩ := ih hservices
    refine ⟨(lengthDigits (Bytes.ofString service).length ++ Bytes.ofString service) :: requests,
      ?_, ?_⟩
    · rw [List.mapM_cons, encodeRequest_of_le hservice, hrequests]
      rfl
    · rw [List.flatten_cons, List.append_assoc, List.map_cons]
      exact .cons (isFrame_lengthDigits hservice) hframed

/-- **Main theorem.**
* A service is refused exactly if it is too long for its length to be written, as a breach of the
  protocol.
* Services within the limit are all encoded. Whoever reads as many frames off their requests, with
  anything behind them and in whatever chunks, reads their bytes in order, and leaves what is behind.
* Whoever reads a payload at all has read four hexadecimal digits of its length and the payload. With
  the digits in capitals this is the request for any text with these bytes.
* An answer is read as consent exactly if it begins with the one token, and as a refusal exactly if it
  begins with the other and the frame of the message; no more is taken. Anything else is a breach of
  the protocol when the other side has closed. -/
theorem framing_roundTrip :
    (∀ service,
      ((∃ e, encodeRequest service = .error e) ↔
        longestRequest < (Bytes.ofString service).length) ∧
      ∀ e, encodeRequest service = .error e → ∃ detail, e = .protocol detail) ∧
    (∀ (services : List String) (rest : Bytes),
      (∀ service ∈ services, (Bytes.ofString service).length ≤ longestRequest) →
      ∃ requests, services.mapM encodeRequest = .ok requests ∧
        ∀ s : Stream, s.bytes = requests.flatten ++ rest →
          ∃ s', Tracking.listings Read.frame services.length s =
              (services.map fun service => .ok (Bytes.ofString service), s') ∧
            s'.bytes = rest ∧ s'.ending = s.ending) ∧
    (∀ s s' payload, Read.frame.run s = (.ok payload, s') →
      ∃ digits, s.bytes = digits ++ payload ++ s'.bytes ∧ digits.length = 4 ∧
        (∀ b ∈ digits, (Text.hexDigit? (Char.ofNat b.toNat)).isSome = true) ∧
        Bytes.capitals digits = lengthDigits payload.length ∧
        ∀ text, Bytes.ofString text = payload →
          encodeRequest text = .ok (Bytes.capitals digits ++ payload)) ∧
    ∀ s : Stream,
      (∀ rest, Read.Gives Read.status s .okay rest ↔ s.bytes = okayToken ++ rest) ∧
      (∀ message rest, Read.Gives Read.status s (.fail message) rest ↔
        ∃ framed payload, IsFrame framed payload ∧ message = Utf8.lossy payload ∧
          s.bytes = failToken ++ (framed ++ rest)) ∧
      (s.ending = .closed → (∀ a rest, ¬ Read.Gives Read.status s a rest) →
        ∃ detail, (Read.status.run s).1 = .error (.failed (.protocol detail))) := by
  refine ⟨fun service => ?_, fun services rest hservices => ?_, fun s s' payload hrun => ?_,
    fun s => ⟨fun _ => Read.gives_okay_iff, fun _ _ => Read.gives_fail_iff,
      Read.error_of_no_status⟩⟩
  · by_cases hlong : longestRequest < (Bytes.ofString service).length
    · obtain ⟨detail, hdetail⟩ := encodeRequest_of_lt hlong
      rw [hdetail]
      exact ⟨iff_of_true ⟨_, rfl⟩ hlong, fun e he => ⟨detail, (Except.error.inj he).symm⟩⟩
    · rw [encodeRequest_of_le (Nat.not_lt.1 hlong)]
      exact ⟨iff_of_false nofun hlong, nofun⟩
  · obtain ⟨requests, hrequests, hframed⟩ := framed_requests rest hservices
    refine ⟨requests, hrequests, fun s hs => ?_⟩
    obtain ⟨s', hbytes, hending, hlist⟩ :=
      Read.listings_of_framed (r := Read.frame) (f := id) (fun _ _ _ h => h) hframed hs 0
    refine ⟨s', ?_, hbytes, hending⟩
    rw [List.length_map] at hlist
    rw [← Nat.add_zero services.length, hlist, List.map_map, Tracking.listings, List.append_nil]
    rfl
  · -- what the run leaves is what `Gives` says, so the payload has a frame in front of it
    obtain ⟨framed, ⟨hlong, digits, rfl, hdigits⟩, hbytes⟩ :
        ∃ framed, IsFrame framed payload ∧ s.bytes = framed ++ s'.bytes := by
      rcases Read.frame_cases s with ⟨framed, payload', rest, hframe, hbytes⟩ | ⟨e, he, -⟩
      · obtain ⟨s'', hrun', rfl, -⟩ := Read.gives_frame hframe hbytes
        rw [hrun] at hrun'
        cases hrun'
        exact ⟨framed, hframe, hbytes⟩
      · rw [hrun] at he
        cases he
    refine ⟨digits, hbytes, length_eq_four hdigits, isSome_hexDigit? hdigits, hdigits, ?_⟩
    rintro text rfl
    rw [encodeRequest_of_le hlong, hdigits]

end DebugBridge
