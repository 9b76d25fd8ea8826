import AS4.PythonData

/-!
Python's `base64` module. `b64decode` without `validate` skips every character
outside the alphabet; with it, such a character, data after the padding or
padding in front raises. Both stop at the padding that completes a group.
-/

namespace Base64
open PythonData

def alphabet : List Char := "ABCDEFGHIJKLMNOPQRSTUVWXYZabcdefghijklmnopqrstuvwxyz0123456789+/".toList

def encodeSextet (value : Nat) : Char := alphabet.getD value 'A'

def decodeSextet (c : Char) : Option Nat :=
  if c.toNat < 128 then alphabet.idxOf? c else none

def encodeChars : Bytes → List Char
  | a :: b :: c :: rest =>
      encodeSextet (a.toNat / 4) :: encodeSextet (a.toNat % 4 * 16 + b.toNat / 16) ::
        encodeSextet (b.toNat % 16 * 4 + c.toNat / 64) :: encodeSextet (c.toNat % 64) :: encodeChars rest
  | [a, b] =>
      [encodeSextet (a.toNat / 4), encodeSextet (a.toNat % 4 * 16 + b.toNat / 16),
        encodeSextet (b.toNat % 16 * 4), '=']
  | [a] => [encodeSextet (a.toNat / 4), encodeSextet (a.toNat % 4 * 16), '=', '=']
  | [] => []

/-- `base64.b64encode` -/
def b64encode (data : Bytes) : String := String.ofList (encodeChars data)

/-- The state of `binascii.a2b_base64`: how far into a group of four it is, the
bits carried over, the padding seen and how many bytes it has written. -/
structure Scan where
  quadPos : Nat
  leftover : Nat
  pads : Nat
  paddingStarted : Bool
  written : Nat

def Scan.start : Scan := ⟨0, 0, 0, false, 0⟩

def Scan.data (scan : Scan) (value : Nat) : Option UInt8 × Scan :=
  match scan.quadPos with
  | 0 => (none, { scan with quadPos := 1, leftover := value, pads := 0 })
  | 1 => (some (UInt8.ofNat (scan.leftover * 4 + value / 16)),
      { scan with quadPos := 2, leftover := value % 16, pads := 0, written := scan.written + 1 })
  | 2 => (some (UInt8.ofNat (scan.leftover * 16 + value / 4)),
      { scan with quadPos := 3, leftover := value % 4, pads := 0, written := scan.written + 1 })
  | _ => (some (UInt8.ofNat (scan.leftover * 64 + value)),
      { scan with quadPos := 0, leftover := 0, pads := 0, written := scan.written + 1 })

def Scan.finish (scan : Scan) : Except String Bytes :=
  if scan.quadPos = 0 then .ok []
  else if scan.quadPos = 1 then
    .error s!"Invalid base64-encoded string: number of data characters ({scan.written / 3 * 4 + 1}) cannot be 1 more than a multiple of 4"
  else .error "Incorrect padding"

def a2bBase64 (strict : Bool) : Scan → List Char → Except String Bytes
  | scan, [] => scan.finish
  | scan, c :: rest =>
      if c = '=' then
        if 2 ≤ scan.quadPos ∧ 4 ≤ scan.quadPos + (scan.pads + 1) then
          if strict && !rest.isEmpty then .error "Excess data after padding" else .ok []
        else
          a2bBase64 strict
            { scan with paddingStarted := true, pads := if 2 ≤ scan.quadPos then scan.pads + 1 else scan.pads } rest
      else
        match decodeSextet c with
        | none => if strict then .error "Only base64 data is allowed" else a2bBase64 strict scan rest
        | some value =>
            if strict && scan.paddingStarted then .error "Discontinuous padding not allowed"
            else
              match scan.data value with
              | (none, next) => a2bBase64 strict next rest
              | (some byte, next) => (a2bBase64 strict next rest).map (byte :: ·)

/-- `base64.b64decode(text, validate=strict)`. The error is the text of the `ValueError`. -/
def b64decode (strict : Bool) (text : String) : Except String Bytes :=
  if text.toList.any (fun c => decide (128 ≤ c.toNat)) then
    .error "string argument should contain only ASCII characters"
  else if strict && text.toList.head? == some '=' then .error "Leading padding not allowed"
  else a2bBase64 strict .start text.toList

section RoundTrip

theorem decode_encodeSextet : ∀ value < 64, decodeSextet (encodeSextet value) = some value := by
  decide +kernel

theorem encodeSextet_ne_pad : ∀ value < 64, encodeSextet value ≠ '=' := by
  decide +kernel

theorem encodeSextet_ascii : ∀ value < 64, (encodeSextet value).toNat < 128 := by
  decide +kernel

theorem encodeSextet_solid : ∀ value < 64, isSpace (encodeSextet value) = false := by
  decide +kernel

/-- One data character moves the scan on, whatever the mode. -/
theorem a2b_sextet (strict : Bool) (scan : Scan) (value : Nat) (small : value < 64) (rest : List Char)
    (unpadded : scan.paddingStarted = false) :
    a2bBase64 strict scan (encodeSextet value :: rest) =
      match scan.data value with
      | (none, next) => a2bBase64 strict next rest
      | (some byte, next) => (a2bBase64 strict next rest).map (byte :: ·) := by
  rw [a2bBase64, if_neg (encodeSextet_ne_pad value small), decode_encodeSextet value small]
  simp [unpadded]

theorem byte_lt (b : UInt8) : b.toNat < 256 := b.toNat_lt

theorem ofNat_eq (b : UInt8) (n : Nat) (same : n = b.toNat) : UInt8.ofNat n = b := by
  subst same
  exact UInt8.ofNat_toNat

theorem a2b_encodeChars (strict : Bool) (data : Bytes) (scan : Scan) (fresh : scan.quadPos = 0)
    (unpadded : scan.paddingStarted = false) :
    a2bBase64 strict scan (encodeChars data) = .ok data := by
  obtain ⟨quadPos, leftover, pads, paddingStarted, written⟩ := scan
  obtain rfl : quadPos = 0 := fresh
  obtain rfl : paddingStarted = false := unpadded
  induction data using encodeChars.induct generalizing leftover pads written with
  | case1 a b c rest ih =>
      have ha := byte_lt a
      have hb := byte_lt b
      have hc := byte_lt c
      rw [encodeChars, a2b_sextet _ _ _ (by omega) _ rfl]
      simp only [Scan.data]
      rw [a2b_sextet _ _ _ (by omega) _ rfl]
      simp only [Scan.data]
      rw [a2b_sextet _ _ _ (by omega) _ rfl]
      simp only [Scan.data]
      rw [a2b_sextet _ _ _ (by omega) _ rfl]
      simp only [Scan.data]
      rw [ih]
      rw [ofNat_eq a _ (by omega), ofNat_eq b _ (by omega), ofNat_eq c _ (by omega)]
      rfl
  | case2 a b =>
      have ha := byte_lt a
      have hb := byte_lt b
      rw [encodeChars, a2b_sextet _ _ _ (by omega) _ rfl]
      simp only [Scan.data]
      rw [a2b_sextet _ _ _ (by omega) _ rfl]
      simp only [Scan.data]
      rw [a2b_sextet _ _ _ (by omega) _ rfl]
      simp only [Scan.data]
      rw [ofNat_eq a _ (by omega), ofNat_eq b _ (by omega)]
      simp [a2bBase64, Except.map]
  | case3 a =>
      have ha := byte_lt a
      rw [encodeChars, a2b_sextet _ _ _ (by omega) _ rfl]
      simp only [Scan.data]
      rw [a2b_sextet _ _ _ (by omega) _ rfl]
      simp only [Scan.data]
      rw [ofNat_eq a _ (by omega)]
      simp [a2bBase64, Except.map]
  | case4 => simp [encodeChars, a2bBase64, Scan.finish]

/-- Encoding writes data characters and padding, nothing else. -/
theorem mem_encodeChars {data : Bytes} {c : Char} (member : c ∈ encodeChars data) :
    c = '=' ∨ ∃ value < 64, c = encodeSextet value := by
  induction data using encodeChars.induct with
  | case1 a b d rest ih =>
      have ha := byte_lt a
      have hb := byte_lt b
      have hd := byte_lt d
      simp only [encodeChars, List.mem_cons] at member
      rcases member with rfl | rfl | rfl | rfl | later
      · exact .inr ⟨_, by omega, rfl⟩
      · exact .inr ⟨_, by omega, rfl⟩
      · exact .inr ⟨_, by omega, rfl⟩
      · exact .inr ⟨_, by omega, rfl⟩
      · exact ih later
  | case2 a b =>
      have ha := byte_lt a
      have hb := byte_lt b
      simp only [encodeChars, List.mem_cons, List.not_mem_nil, or_false] at member
      rcases member with rfl | rfl | rfl | rfl
      · exact .inr ⟨_, by omega, rfl⟩
      · exact .inr ⟨_, by omega, rfl⟩
      · exact .inr ⟨_, by omega, rfl⟩
      · exact .inl rfl
  | case3 a =>
      have ha := byte_lt a
      simp only [encodeChars, List.mem_cons, List.not_mem_nil, or_false] at member
      rcases member with rfl | rfl | rfl | rfl
      · exact .inr ⟨_, by omega, rfl⟩
      · exact .inr ⟨_, by omega, rfl⟩
      · exact .inl rfl
      · exact .inl rfl
  | case4 => simp [encodeChars] at member

theorem encodeChars_solid {data : Bytes} {c : Char} (member : c ∈ encodeChars data) : isSpace c = false := by
  rcases mem_encodeChars member with rfl | ⟨value, small, rfl⟩
  · decide
  · exact encodeSextet_solid value small

theorem encodeChars_ascii {data : Bytes} {c : Char} (member : c ∈ encodeChars data) : c.toNat < 128 := by
  rcases mem_encodeChars member with rfl | ⟨value, small, rfl⟩
  · decide
  · exact encodeSextet_ascii value small

theorem encodeChars_head (data : Bytes) : (encodeChars data).head? ≠ some '=' := by
  match data with
  | [] => simp [encodeChars]
  | [a] =>
      have := encodeSextet_ne_pad (a.toNat / 4) (by have := byte_lt a; omega)
      simpa [encodeChars] using this
  | [a, b] =>
      have := encodeSextet_ne_pad (a.toNat / 4) (by have := byte_lt a; omega)
      simpa [encodeChars] using this
  | a :: b :: c :: rest =>
      have := encodeSextet_ne_pad (a.toNat / 4) (by have := byte_lt a; omega)
      simpa [encodeChars] using this

@[simp] theorem b64decode_b64encode (strict : Bool) (data : Bytes) :
    b64decode strict (b64encode data) = .ok data := by
  have ascii : (encodeChars data).any (fun c => decide (128 ≤ c.toNat)) = false := by
    rw [List.any_eq_false]
    intro c member
    have := encodeChars_ascii member
    simpa using this
  rw [b64decode, b64encode, String.toList_ofList, ascii]
  have head : ((encodeChars data).head? == some '=') = false := by
    simpa using encodeChars_head data
  simp only [head, Bool.and_false, Bool.false_eq_true, ↓reduceIte]
  exact a2b_encodeChars strict data .start rfl rfl

/-- Encoded text has no white space to lose. -/
@[simp] theorem strip_b64encode (data : Bytes) : strip (b64encode data) = b64encode data := by
  rw [strip, b64encode, String.toList_ofList]
  congr 1
  have front : (encodeChars data).dropWhile isSpace = encodeChars data := by
    cases chars : encodeChars data with
    | nil => rfl
    | cons c rest =>
        have solid := encodeChars_solid (show c ∈ encodeChars data by simp [chars])
        exact List.dropWhile_cons_of_neg (by simp [solid])
  rw [stripChars, front, List.rdropWhile_eq_self_iff]
  intro nonempty
  have solid := encodeChars_solid (List.getLast_mem nonempty)
  simp [solid]

theorem b64encode_eq_empty {data : Bytes} : b64encode data = "" ↔ data = [] := by
  constructor
  · intro empty
    have decoded := b64decode_b64encode false data
    rw [empty] at decoded
    exact (Except.ok.inj decoded).symm
  · rintro rfl
    rfl

end RoundTrip

end Base64
