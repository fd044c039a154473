import CapkReconciler.Basic

/-!
# `base64.StdEncoding`

`usersCloudConfig` (lines 531–533) sends the SSH public key through
`base64.StdEncoding.EncodeToString` and then `DecodeString`, and drops the
decoder's error. This module models the two functions of Go's
`encoding/base64` for `StdEncoding` (the standard alphabet, `=` padding, not
strict), and proves the round trip the source relies on.

- `encodeToString`: `Encode`, three bytes to four characters, with a last
  group of one or two bytes padded.
- `decodeQuantum`: one quantum of `Decode`, with its newline skipping,
  padding checks and `CorruptInputError` offsets. `decodeLoop` calls it until
  the input ends or a quantum fails; `decodeString` is `DecodeString`.
- `decodeString_encodeToString`: every byte string comes back from the decode
  of its encode, whole and with no error. Each group of three bytes is one
  quantum (`decodeQuantum_full`, `assemble_three`), and the last group, padded,
  ends the input (`decodeQuantum_pad2`, `decodeQuantum_pad1`).
-/

namespace CapkReconciler

namespace Base64

/-- `encodeStd`, the alphabet of `StdEncoding`, as bytes. -/
def encodeStd : List UInt8 :=
  "ABCDEFGHIJKLMNOPQRSTUVWXYZabcdefghijklmnopqrstuvwxyz0123456789+/".toList.map
    fun c => c.toNat.toUInt8

/-- `enc.encode[i]`: the character of a sextet. -/
def encodeIndex (i : Nat) : UInt8 := encodeStd.getD i 0

/-- `StdPadding`, the byte of `=`. -/
def stdPadding : UInt8 := 61

/-- `decodeMap`: the sextet of an alphabet character, `0xFF` for any other
byte. -/
def decodeMap (c : UInt8) : UInt8 :=
  match encodeStd.indexOf? c with
  | some i => i.toUInt8
  | none => 0xFF

/-- The two bytes `decodeQuantum` skips, `\n` and `\r`. -/
def isNewline (c : UInt8) : Bool := c == 10 || c == 13

/-! ## Encoding -/

/-- `EncodeToString`, through `Encode`: each group of three bytes becomes the
four characters of its four sextets; a last group of one or two bytes is
padded with `=` to four characters. -/
def encodeToString : List UInt8 → List UInt8
  | b0 :: b1 :: b2 :: src =>
    let val := b0.toNat <<< 16 ||| b1.toNat <<< 8 ||| b2.toNat
    [encodeIndex (val >>> 18 &&& 0x3F), encodeIndex (val >>> 12 &&& 0x3F),
      encodeIndex (val >>> 6 &&& 0x3F), encodeIndex (val &&& 0x3F)] ++ encodeToString src
  | [b0, b1] =>
    let val := b0.toNat <<< 16 ||| b1.toNat <<< 8
    [encodeIndex (val >>> 18 &&& 0x3F), encodeIndex (val >>> 12 &&& 0x3F),
      encodeIndex (val >>> 6 &&& 0x3F), stdPadding]
  | [b0] =>
    let val := b0.toNat <<< 16
    [encodeIndex (val >>> 18 &&& 0x3F), encodeIndex (val >>> 12 &&& 0x3F), stdPadding, stdPadding]
  | [] => []

/-! ## Decoding -/

/-- What one `decodeQuantum` call returns: the input after `si`, `si`, the
bytes it wrote, and its error, a `CorruptInputError` offset. -/
structure Quantum where
  rest : List UInt8
  si : Nat
  out : List UInt8
  err : Option Nat
deriving DecidableEq, Repr

/-- The tail of `decodeQuantum`: the sextets `dbuf`, zeros where missing, as
a 24-bit value, and of its three bytes the first `len(dbuf) - 1`. Not strict:
bits left over in a padded quantum are dropped, not checked. -/
def assemble (dbuf : List UInt8) : List UInt8 :=
  let d (j : Nat) : Nat := (dbuf.getD j 0).toNat
  let val := d 0 <<< 18 ||| d 1 <<< 12 ||| d 2 <<< 6 ||| d 3
  [(val >>> 16).toUInt8, (val >>> 8).toUInt8, (val >>> 0).toUInt8].take (dbuf.length - 1)

/-- The end of a padded quantum of `decodeQuantum`: newlines are skipped, and
anything after them is trailing garbage, an error at its offset, with the
quantum's bytes still written. -/
def endQuantum (src : List UInt8) (si : Nat) (dbuf : List UInt8) : Quantum :=
  let rest := src.dropWhile isNewline
  let si := si + (src.length - rest.length)
  ⟨rest, si, assemble dbuf, if rest = [] then none else some si⟩

/-- `decodeQuantum`, from the offset `si` of the input `src` left, with `dbuf`
the sextets read so far (`j` is its length): up to four sextets, newlines
skipped; at the end of the input, after no sextet; or at padding, after two
or three. -/
def decodeQuantum (src : List UInt8) (si : Nat) (dbuf : List UInt8) : Quantum :=
  if dbuf.length = 4 then ⟨src, si, assemble dbuf, none⟩ else
  match src with
  | [] => ⟨[], si, [], if dbuf = [] then none else some (si - dbuf.length)⟩
  | c :: src =>
    if decodeMap c ≠ 0xFF then decodeQuantum src (si + 1) (dbuf ++ [decodeMap c])
    else if isNewline c then decodeQuantum src (si + 1) dbuf
    else if c ≠ stdPadding then ⟨src, si + 1, [], some si⟩
    else match dbuf.length with
      | 0 | 1 => ⟨src, si + 1, [], some si⟩
      | 2 =>
        let rest := src.dropWhile isNewline
        let si := si + 1 + (src.length - rest.length)
        match rest with
        | [] => ⟨[], si, [], some si⟩
        | c :: rest => if c ≠ stdPadding then ⟨c :: rest, si, [], some (si - 1)⟩ else endQuantum rest (si + 1) dbuf
      | _ => endQuantum src (si + 1) dbuf

/-- A quantum of four sextets is complete. -/
theorem decodeQuantum_four {dbuf : List UInt8} (h : dbuf.length = 4) (src : List UInt8) (si : Nat) :
    decodeQuantum src si dbuf = ⟨src, si, assemble dbuf, none⟩ := by
  unfold decodeQuantum
  rw [if_pos h]

theorem endQuantum_rest_suffix (src : List UInt8) (si : Nat) (dbuf : List UInt8) :
    (endQuantum src si dbuf).rest <:+ src :=
  List.dropWhile_suffix _

/-- **Step lemma**: a quantum that reads a character leaves only input after
it, if the quanta from the input after it do. -/
theorem decodeQuantum_cons_rest {c : UInt8} {src : List UInt8} {si : Nat} {dbuf : List UInt8}
    (hd : dbuf.length ≠ 4) (hsrc : ∀ si d, (decodeQuantum src si d).rest <:+ src) :
    (decodeQuantum (c :: src) si dbuf).rest <:+ src := by
  have hdrop : src.dropWhile isNewline <:+ src := List.dropWhile_suffix _
  rw [decodeQuantum.eq_2, if_neg hd]
  split
  · exact hsrc _ _
  split
  · exact hsrc _ _
  split
  · exact List.suffix_refl _
  generalize dbuf.length = j
  rcases j with _ | _ | _ | j
  · exact List.suffix_refl _
  · exact List.suffix_refl _
  · dsimp only
    split
    · exact List.nil_suffix
    · rename_i h
      split
      · exact h ▸ hdrop
      · exact (endQuantum_rest_suffix _ _ _).trans ((List.suffix_cons _ _).trans (h ▸ hdrop))
  · exact endQuantum_rest_suffix _ _ _

/-- A quantum that reads a character leaves only input after it. -/
theorem decodeQuantum_rest_suffix (c : UInt8) (src : List UInt8) (si : Nat) (dbuf : List UInt8)
    (hd : dbuf.length ≠ 4) : (decodeQuantum (c :: src) si dbuf).rest <:+ src := by
  induction src generalizing c si dbuf with
  | nil =>
    refine decodeQuantum_cons_rest hd fun si d => ?_
    rw [decodeQuantum.eq_1]
    split <;> exact List.nil_suffix
  | cons c' src ih =>
    refine decodeQuantum_cons_rest hd fun si d => ?_
    by_cases h4 : d.length = 4
    · simp only [decodeQuantum_four h4, List.suffix_refl]
    · exact (ih c' _ d h4).trans (List.suffix_cons _ _)

/-- `Decode`'s loop: quanta from `si` on, until the input ends or one fails;
the bytes written and the error. The fast paths before it decode eight or four
alphabet characters at once, as `decodeQuantum` does, and are not modelled
apart. -/
def decodeLoop (src : List UInt8) (si : Nat) : List UInt8 × Option Nat :=
  match src with
  | [] => ([], none)
  | c :: cs =>
    let q := decodeQuantum (c :: cs) si []
    match q.err with
    | some e => (q.out, some e)
    | none => let r := decodeLoop q.rest q.si; (q.out ++ r.1, r.2)
termination_by src.length
decreasing_by
  simp_wf
  exact Nat.lt_succ_of_le (decodeQuantum_rest_suffix _ _ _ [] (by decide)).length_le

/-- `DecodeString`: `dbuf[:n]`, the bytes `Decode` wrote, and its error. -/
def decodeString (s : List UInt8) : List UInt8 × Option Nat := decodeLoop s 0

/-! ## Arithmetic of the quanta -/

theorem toUInt8_eq {n : Nat} {b : UInt8} (h : n % 256 = b.toNat) : n.toUInt8 = b :=
  UInt8.toNat.inj h

theorem and_0x3F (x : Nat) : x &&& 0x3F = x % 64 := Nat.and_pow_two_sub_one_eq_mod x 6

theorem and_0x3F_lt (x : Nat) : x &&& 0x3F < 64 := by
  rw [and_0x3F]
  omega

@[simp] theorem toNat_toUInt8_sextet (x : Nat) : (x &&& 0x3F).toUInt8.toNat = x &&& 0x3F :=
  Nat.mod_eq_of_lt (Nat.lt_trans (and_0x3F_lt x) (by decide))

/-- Go's `|` of a shifted value and a smaller one is their sum. -/
theorem shiftLeft_or_eq_add {a b n : Nat} (h : b < 1 <<< n) : a <<< n ||| b = a <<< n + b := by
  rw [Nat.shiftLeft_eq, Nat.one_mul] at h
  rw [Nat.shiftLeft_eq, Nat.mul_comm, Nat.mul_add_lt_is_or h]

/-- The sextets of a 24-bit value put back together give the value; the last
two may be the zeros of a padded quantum, when the value's are zero. -/
theorem recombine {v : Nat} (hv : v < 1 <<< 24) {d2 d3 : Nat} (h2 : d2 = v >>> 6 &&& 0x3F)
    (h3 : d3 = v &&& 0x3F) :
    (v >>> 18 &&& 0x3F) <<< 18 ||| (v >>> 12 &&& 0x3F) <<< 12 ||| d2 <<< 6 ||| d3 = v := by
  subst h2 h3
  simp only [Nat.or_assoc, and_0x3F]
  simp (disch := omega) only [shiftLeft_or_eq_add]
  omega

section Bytes

variable (b0 b1 b2 : UInt8) {val : Nat}

theorem encode_val3 :
    b0.toNat <<< 16 ||| b1.toNat <<< 8 ||| b2.toNat = b0.toNat <<< 16 + b1.toNat <<< 8 + b2.toNat := by
  have h1 : b1.toNat < 256 := b1.toNat_lt_size
  have h2 : b2.toNat < 256 := b2.toNat_lt_size
  simp only [Nat.or_assoc]
  simp (disch := omega) only [shiftLeft_or_eq_add]
  omega

theorem encode_val2 : b0.toNat <<< 16 ||| b1.toNat <<< 8 = b0.toNat <<< 16 + b1.toNat <<< 8 :=
  have h1 : b1.toNat < 256 := b1.toNat_lt_size
  shiftLeft_or_eq_add (by omega)

/-- The quantum of three bytes gives them back. -/
theorem assemble_three (hval : val = b0.toNat <<< 16 + b1.toNat <<< 8 + b2.toNat) :
    assemble [(val >>> 18 &&& 0x3F).toUInt8, (val >>> 12 &&& 0x3F).toUInt8,
      (val >>> 6 &&& 0x3F).toUInt8, (val &&& 0x3F).toUInt8] = [b0, b1, b2] := by
  have h0 : b0.toNat < 256 := b0.toNat_lt_size
  have h1 : b1.toNat < 256 := b1.toNat_lt_size
  have h2 : b2.toNat < 256 := b2.toNat_lt_size
  simp only [assemble, List.getD_cons_zero, List.getD_cons_succ, toNat_toUInt8_sextet, List.length_cons,
    List.length_nil]
  rw [recombine (by omega) rfl rfl]
  simp only [List.take, List.cons.injEq, and_true]
  refine ⟨toUInt8_eq ?_, toUInt8_eq ?_, toUInt8_eq ?_⟩ <;> omega

/-- The quantum of two bytes, padded, gives them back. -/
theorem assemble_two (hval : val = b0.toNat <<< 16 + b1.toNat <<< 8) :
    assemble [(val >>> 18 &&& 0x3F).toUInt8, (val >>> 12 &&& 0x3F).toUInt8,
      (val >>> 6 &&& 0x3F).toUInt8] = [b0, b1] := by
  have h0 : b0.toNat < 256 := b0.toNat_lt_size
  have h1 : b1.toNat < 256 := b1.toNat_lt_size
  simp only [assemble, List.getD_cons_zero, List.getD_cons_succ, List.getD_nil, toNat_toUInt8_sextet,
    UInt8.toNat_zero, List.length_cons, List.length_nil]
  rw [recombine (by omega) rfl (by rw [and_0x3F]; omega)]
  simp only [List.take, List.cons.injEq, and_true]
  exact ⟨toUInt8_eq (by omega), toUInt8_eq (by omega)⟩

/-- The quantum of one byte, padded, gives it back. -/
theorem assemble_one (hval : val = b0.toNat <<< 16) :
    assemble [(val >>> 18 &&& 0x3F).toUInt8, (val >>> 12 &&& 0x3F).toUInt8] = [b0] := by
  have h0 : b0.toNat < 256 := b0.toNat_lt_size
  simp only [assemble, List.getD_cons_zero, List.getD_cons_succ, List.getD_nil, toNat_toUInt8_sextet,
    UInt8.toNat_zero, List.length_cons, List.length_nil]
  rw [recombine (by omega) (by rw [and_0x3F]; omega) (by rw [and_0x3F]; omega)]
  simp only [List.take, List.cons.injEq, and_true]
  exact toUInt8_eq (by omega)

end Bytes

/-! ## Decoding what was encoded -/

/-- `decodeMap` inverts the alphabet, checked over its 64 characters. -/
theorem decodeMap_encodeIndex_fin : ∀ i : Fin 64, decodeMap (encodeIndex i) = i.val.toUInt8 := by
  decide

theorem decodeMap_encodeIndex {i : Nat} (hi : i < 64) : decodeMap (encodeIndex i) = i.toUInt8 :=
  decodeMap_encodeIndex_fin ⟨i, hi⟩

theorem decodeMap_stdPadding : decodeMap stdPadding = 0xFF := by decide

theorem isNewline_stdPadding : isNewline stdPadding = false := by decide

/-- **Step lemma**: an alphabet character adds its sextet to the quantum. -/
theorem decodeQuantum_encodeIndex {i : Nat} (hi : i < 64) (src : List UInt8) (si : Nat)
    {dbuf : List UInt8} (hd : dbuf.length ≠ 4) :
    decodeQuantum (encodeIndex i :: src) si dbuf = decodeQuantum src (si + 1) (dbuf ++ [i.toUInt8]) := by
  have hne : i.toUInt8 ≠ 0xFF := fun h => by
    have : i % 256 = 255 := congrArg UInt8.toNat h
    omega
  rw [decodeQuantum, if_neg hd]
  dsimp only
  rw [decodeMap_encodeIndex hi, if_pos hne]

/-- Four alphabet characters are one quantum. -/
theorem decodeQuantum_full {s0 s1 s2 s3 : Nat} (h0 : s0 < 64) (h1 : s1 < 64) (h2 : s2 < 64)
    (h3 : s3 < 64) (src : List UInt8) (si : Nat) :
    decodeQuantum (encodeIndex s0 :: encodeIndex s1 :: encodeIndex s2 :: encodeIndex s3 :: src) si [] =
      ⟨src, si + 4, assemble [s0.toUInt8, s1.toUInt8, s2.toUInt8, s3.toUInt8], none⟩ := by
  rw [decodeQuantum_encodeIndex h0 _ _ (by simp), decodeQuantum_encodeIndex h1 _ _ (by simp),
    decodeQuantum_encodeIndex h2 _ _ (by simp), decodeQuantum_encodeIndex h3 _ _ (by simp),
    decodeQuantum_four (by simp)]
  rfl

/-- Three characters and `=` end the input as one quantum of two bytes. -/
theorem decodeQuantum_pad2 {s0 s1 s2 : Nat} (h0 : s0 < 64) (h1 : s1 < 64) (h2 : s2 < 64) (si : Nat) :
    decodeQuantum [encodeIndex s0, encodeIndex s1, encodeIndex s2, stdPadding] si [] =
      ⟨[], si + 4, assemble [s0.toUInt8, s1.toUInt8, s2.toUInt8], none⟩ := by
  rw [decodeQuantum_encodeIndex h0 _ _ (by simp), decodeQuantum_encodeIndex h1 _ _ (by simp),
    decodeQuantum_encodeIndex h2 _ _ (by simp), decodeQuantum, if_neg (by simp)]
  simp [decodeMap_stdPadding, isNewline_stdPadding, endQuantum]

/-- Two characters and `==` end the input as one quantum of one byte. -/
theorem decodeQuantum_pad1 {s0 s1 : Nat} (h0 : s0 < 64) (h1 : s1 < 64) (si : Nat) :
    decodeQuantum [encodeIndex s0, encodeIndex s1, stdPadding, stdPadding] si [] =
      ⟨[], si + 4, assemble [s0.toUInt8, s1.toUInt8], none⟩ := by
  rw [decodeQuantum_encodeIndex h0 _ _ (by simp), decodeQuantum_encodeIndex h1 _ _ (by simp),
    decodeQuantum, if_neg (by simp)]
  simp [decodeMap_stdPadding, isNewline_stdPadding, endQuantum]

/-- **Run lemma**: `Decode` gives back, from any offset, every byte string
`Encode` wrote, with no error. -/
theorem decodeLoop_encodeToString (bs : List UInt8) (si : Nat) :
    decodeLoop (encodeToString bs) si = (bs, none) := by
  induction bs using encodeToString.induct generalizing si with
  | case1 b0 b1 b2 src ih =>
    simp only [encodeToString, List.cons_append, List.nil_append]
    rw [decodeLoop, decodeQuantum_full (and_0x3F_lt _) (and_0x3F_lt _) (and_0x3F_lt _) (and_0x3F_lt _)]
    simp only [ih, assemble_three b0 b1 b2 (encode_val3 b0 b1 b2), List.cons_append, List.nil_append]
  | case2 b0 b1 =>
    simp only [encodeToString]
    rw [decodeLoop, decodeQuantum_pad2 (and_0x3F_lt _) (and_0x3F_lt _) (and_0x3F_lt _)]
    simp only [decodeLoop, assemble_two b0 b1 (encode_val2 b0 b1), List.append_nil]
  | case3 b0 =>
    simp only [encodeToString]
    rw [decodeLoop, decodeQuantum_pad1 (and_0x3F_lt _) (and_0x3F_lt _)]
    simp only [decodeLoop, assemble_one b0 rfl, List.append_nil]
  | case4 => simp [encodeToString, decodeLoop]

/-- **Round trip**: `DecodeString` of `EncodeToString` gives every byte
string back, whole, and no error. -/
theorem decodeString_encodeToString (bs : List UInt8) : decodeString (encodeToString bs) = (bs, none) :=
  decodeLoop_encodeToString bs 0

end Base64

end CapkReconciler
