import XrayChecker.Go.Bytes

/-
`encoding/base64` with the standard alphabet and padding: what it encodes to,
and what its decoder, which skips line ends and does not mind the bits left
over, makes of a text.
-/

namespace Go

def base64Alphabet : Bytes :=
  "ABCDEFGHIJKLMNOPQRSTUVWXYZabcdefghijklmnopqrstuvwxyz0123456789+/".toList.map
    fun c => UInt8.ofNat c.toNat

def base64Pad : UInt8 := 0x3d

def base64Digit (n : Nat) : UInt8 :=
  base64Alphabet.getD n 0

def base64Value (b : UInt8) : Option Nat :=
  base64Alphabet.idxOf? b

/-- The byte of a number, from the digit that stands at `place`. -/
def byteAt (n place : Nat) : UInt8 :=
  UInt8.ofNat (n / place)

/-- `base64.StdEncoding.EncodeToString`. -/
def encodeStd : Bytes → Bytes
  | [] => []
  | [a] =>
      let n := a.toNat * 65536
      [base64Digit (n / 262144), base64Digit (n / 4096 % 64), base64Pad,
        base64Pad]
  | [a, b] =>
      let n := a.toNat * 65536 + b.toNat * 256
      [base64Digit (n / 262144), base64Digit (n / 4096 % 64),
        base64Digit (n / 64 % 64), base64Pad]
  | a :: b :: c :: rest =>
      let n := a.toNat * 65536 + b.toNat * 256 + c.toNat
      [base64Digit (n / 262144), base64Digit (n / 4096 % 64),
        base64Digit (n / 64 % 64), base64Digit (n % 64)] ++ encodeStd rest

/-- `decodeQuantum`, on four characters that end no line; `last` when nothing
follows them. -/
def decodeQuantum (last : Bool) (a b c d : UInt8) : Option Bytes :=
  match base64Value a, base64Value b, base64Value c, base64Value d with
  | some a, some b, some c, some d =>
      let n := a * 262144 + b * 4096 + c * 64 + d
      some [byteAt n 65536, byteAt n 256, byteAt n 1]
  | some a, some b, some c, none =>
      let n := a * 262144 + b * 4096 + c * 64
      if last ∧ d = base64Pad then some [byteAt n 65536, byteAt n 256]
      else none
  | some a, some b, none, none =>
      let n := a * 262144 + b * 4096
      if last ∧ c = base64Pad ∧ d = base64Pad then some [byteAt n 65536]
      else none
  | _, _, _, _ => none

def decodeQuanta : Bytes → Option Bytes
  | [] => some []
  | a :: b :: c :: d :: rest =>
      match decodeQuantum rest.isEmpty a b c d with
      | none => none
      | some bytes => (decodeQuanta rest).map (bytes ++ ·)
  | _ => none

/-- `base64.StdEncoding.DecodeString`; `none` where it returns an error. -/
def decodeStd (text : Bytes) : Option Bytes :=
  decodeQuanta (text.filter fun b => b != 0x0a && b != 0x0d)

theorem base64Value_digit {n : Nat} (h : n < 64) :
    base64Value (base64Digit n) = some n := by
  have hall : ∀ n : Fin 64, base64Value (base64Digit n) = some n.val := by
    decide +kernel
  exact hall ⟨n, h⟩

theorem base64Value_pad : base64Value base64Pad = none := by
  decide_cbv

theorem base64Digit_visible {n : Nat} (h : n < 64) :
    base64Digit n ≠ 0x0a ∧ base64Digit n ≠ 0x0d := by
  have hall : ∀ n : Fin 64,
      base64Digit n ≠ 0x0a ∧ base64Digit n ≠ 0x0d := by
    decide +kernel
  exact hall ⟨n, h⟩

theorem byteAt_eq {n place : Nat} {b : UInt8}
    (h : n / place % 256 = b.toNat) : byteAt n place = b := by
  apply UInt8.toNat_inj.mp
  rw [byteAt, UInt8.toNat_ofNat']
  exact h

/-- An encoding has no line ends. -/
theorem encodeStd_visible {s : Bytes} :
    ∀ b ∈ encodeStd s, b ≠ 0x0a ∧ b ≠ 0x0d := by
  have hpad : base64Pad ≠ 0x0a ∧ base64Pad ≠ 0x0d := by decide
  induction s using encodeStd.induct with
  | case1 => exact fun b hb => absurd hb List.not_mem_nil
  | case2 a =>
      have ha := a.toNat_lt
      rw [encodeStd]
      simp only [List.forall_mem_cons]
      exact ⟨base64Digit_visible (by omega), base64Digit_visible (by omega),
        hpad, hpad, fun b hb => absurd hb List.not_mem_nil⟩
  | case3 a b =>
      have ha := a.toNat_lt
      have hb := b.toNat_lt
      rw [encodeStd]
      simp only [List.forall_mem_cons]
      exact ⟨base64Digit_visible (by omega), base64Digit_visible (by omega),
        base64Digit_visible (by omega), hpad,
        fun b hb => absurd hb List.not_mem_nil⟩
  | case4 a b c rest ih =>
      have ha := a.toNat_lt
      have hb := b.toNat_lt
      have hc := c.toNat_lt
      rw [encodeStd]
      simp only [List.forall_mem_append, List.forall_mem_cons]
      exact ⟨⟨base64Digit_visible (by omega), base64Digit_visible (by omega),
        base64Digit_visible (by omega), base64Digit_visible (by omega),
        fun b hb => absurd hb List.not_mem_nil⟩, ih⟩

theorem decodeQuanta_encodeStd (s : Bytes) :
    decodeQuanta (encodeStd s) = some s := by
  induction s using encodeStd.induct with
  | case1 => rfl
  | case2 a =>
      have ha := a.toNat_lt
      rw [encodeStd, decodeQuanta, decodeQuantum, base64Value_digit (by omega),
        base64Value_digit (by omega), base64Value_pad]
      simp only [List.isEmpty_nil, and_self, if_true, decodeQuanta,
        Option.map_some, List.append_nil]
      rw [byteAt_eq (b := a) (by omega)]
  | case3 a b =>
      have ha := a.toNat_lt
      have hb := b.toNat_lt
      rw [encodeStd, decodeQuanta, decodeQuantum, base64Value_digit (by omega),
        base64Value_digit (by omega), base64Value_digit (by omega),
        base64Value_pad]
      simp only [List.isEmpty_nil, and_self, if_true, decodeQuanta,
        Option.map_some, List.append_nil]
      rw [byteAt_eq (b := a) (by omega), byteAt_eq (b := b) (by omega)]
  | case4 a b c rest ih =>
      have ha := a.toNat_lt
      have hb := b.toNat_lt
      have hc := c.toNat_lt
      rw [encodeStd]
      dsimp only [List.cons_append, List.nil_append]
      rw [decodeQuanta, decodeQuantum, base64Value_digit (by omega),
        base64Value_digit (by omega), base64Value_digit (by omega),
        base64Value_digit (by omega), ih]
      dsimp only [Option.map_some, List.cons_append, List.nil_append]
      rw [byteAt_eq (b := a) (by omega), byteAt_eq (b := b) (by omega),
        byteAt_eq (b := c) (by omega)]

/-- Decoding undoes encoding. -/
theorem decodeStd_encodeStd (s : Bytes) : decodeStd (encodeStd s) = some s := by
  have hall : (encodeStd s).filter (fun b => b != 0x0a && b != 0x0d) =
      encodeStd s := by
    rw [List.filter_eq_self]
    intro b hb
    simpa using encodeStd_visible b hb
  rw [decodeStd, hall, decodeQuanta_encodeStd]

/-- A quantum holds fewer bytes than digits. -/
theorem decodeQuantum_length {last : Bool} {a b c d : UInt8} {bytes : Bytes}
    (h : decodeQuantum last a b c d = some bytes) :
    bytes.length < [a, b, c, d].countP (· != base64Pad) := by
  have hdigit : ∀ {e n}, base64Value e = some n → (e != base64Pad) = true := by
    intro e n hvalue
    rw [bne_iff_ne]
    rintro rfl
    rw [base64Value_pad] at hvalue
    cases hvalue
  unfold decodeQuantum at h
  split at h
  next ha hb hc hd =>
    cases h
    simp [hdigit ha, hdigit hb, hdigit hc, hdigit hd]
  next ha hb hc hd =>
    dsimp only at h
    split at h
    · cases h
      simp [hdigit ha, hdigit hb, hdigit hc]
    · cases h
  next ha hb hc hd =>
    dsimp only at h
    split at h
    · cases h
      simp [hdigit ha, hdigit hb]
    · cases h
  · cases h

/-- So does a text, unless it holds none. -/
theorem decodeQuanta_length {text bytes : Bytes}
    (h : decodeQuanta text = some bytes) :
    bytes = [] ∨ bytes.length < text.countP (· != base64Pad) := by
  induction text using decodeQuanta.induct generalizing bytes with
  | case1 =>
      left
      simpa [decodeQuanta] using h.symm
  | case2 a b c d rest hfirst =>
      rw [decodeQuanta, hfirst] at h
      cases h
  | case3 a b c d rest first hfirst ih =>
      right
      rw [decodeQuanta, hfirst] at h
      obtain ⟨others, hothers, rfl⟩ := Option.map_eq_some_iff.mp h
      have hshort := decodeQuantum_length hfirst
      have hcount : (a :: b :: c :: d :: rest).countP (· != base64Pad) =
          [a, b, c, d].countP (· != base64Pad) +
            rest.countP (· != base64Pad) := by
        rw [← List.countP_append]
        rfl
      rw [hcount, List.length_append]
      rcases ih hothers with rfl | hlt
      · simp only [List.length_nil]
        omega
      · omega
  | case4 text hnil hcons =>
      rw [decodeQuanta] at h
      · cases h
      · exact hnil
      · exact hcons

end Go
