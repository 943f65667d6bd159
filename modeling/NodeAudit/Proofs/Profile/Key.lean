import Mathlib.Tactic.ByContra
import NodeAudit.Profile.Credential
import NodeAudit.Text.Blank

/-!
# Which private keys are well formed

A key spells a number of bytes if it is one small `0x` or nothing and then two hexadecimal digits
for each byte (`SpellsBytes`), and it spells at most one (`SpellsBytes.unique`). A key is well
formed exactly if it spells 32 bytes, it has the wrong length exactly if it spells another number,
and it is no hexadecimal text exactly if it spells none (`keyProblem?_eq_none_iff`,
`keyProblem?_eq_wrongLength_iff`, `keyProblem?_eq_notHex_iff`).

`keyProblemOf` finds the problem by decoding the bytes of the key. Any decoder that refuses an odd
number of bytes and bytes that are no digits (`DecodesHex`) leads to the same problem
(`keyProblemOf_eq`).

Main statement: `key_classified`.
-/

namespace NodeAudit.Profile

/-- The hexadecimal digits of either case. -/
def hexDigits : List Char := "0123456789abcdefABCDEF".toList

/-- The text is one small `0x` or nothing, and then two hexadecimal digits for each of the bytes. -/
def SpellsBytes (key : String) (n : Nat) : Prop :=
  ∃ mark ds, key.toList = mark ++ ds ∧ (mark = [] ∨ mark = ['0', 'x']) ∧ ds.length = 2 * n ∧
    ∀ c ∈ ds, c ∈ hexDigits

/-- The bytes of characters. -/
def bytesOf (cs : List Char) : List UInt8 := cs.flatMap String.utf8EncodeChar

/-- The decoder refuses exactly an odd number of bytes and every byte that is no hexadecimal digit,
and otherwise gives half as many bytes. -/
structure DecodesHex (decode : List UInt8 → Option (List UInt8)) : Prop where
  eq_none_iff : ∀ bytes, decode bytes = none ↔
    bytes.length % 2 = 1 ∨ ∃ b ∈ bytes, b ∉ bytesOf hexDigits
  length_eq : ∀ bytes decoded, decode bytes = some decoded → bytes.length = 2 * decoded.length

/-- What is wrong with a private key, as its bytes decode without one `0x` before them. -/
def keyProblemOf (decode : List UInt8 → Option (List UInt8)) (key : String) : Option KeyProblem :=
  match decode (bytesOf (keyDigits key.toList)) with
  | none => some .notHex
  | some decoded =>
    if decoded.length = privateKeyBytes then none else some (.wrongLength decoded.length)

variable {key : String} {cs ds : List Char} {c : Char} {n m : Nat}

/-! ## Digits -/

theorem isHexDigit_iff : Decimal.isHexDigit c = true ↔ c ∈ hexDigits := by
  have hascii : ∀ n < 128, Decimal.isHexDigit (Char.ofNat n) = true → Char.ofNat n ∈ hexDigits := by
    decide
  have hall : hexDigits.all Decimal.isHexDigit = true := by decide
  refine ⟨fun h => ?_, List.all_eq_true.1 hall c⟩
  have hlt : c.toNat < 128 := by
    simp only [Decimal.isHexDigit, Decimal.isDigit, Bool.or_eq_true, Bool.and_eq_true,
      decide_eq_true_eq, Char.le_def, UInt32.le_iff_toNat_le] at h
    have hvalues : '9'.val.toNat = 57 ∧ 'f'.val.toNat = 102 ∧ 'F'.val.toNat = 70 := by decide
    rw [Char.toNat]
    omega
  rw [← Char.ofNat_toNat c] at h ⊢
  exact hascii _ hlt h

theorem keyDigits_of_forall (h : ∀ c ∈ cs, c ∈ hexDigits) : keyDigits cs = cs := by
  unfold keyDigits
  split
  · exact absurd (h 'x' (by simp)) (by decide)
  · rfl

theorem exists_mark (cs : List Char) :
    ∃ mark, cs = mark ++ keyDigits cs ∧ (mark = [] ∨ mark = ['0', 'x']) := by
  unfold keyDigits
  split
  · exact ⟨['0', 'x'], rfl, .inr rfl⟩
  · exact ⟨[], rfl, .inl rfl⟩

theorem spellsBytes_iff :
    SpellsBytes key n ↔ (keyDigits key.toList).length = 2 * n ∧
      ∀ c ∈ keyDigits key.toList, c ∈ hexDigits := by
  constructor
  · rintro ⟨mark, ds, hkey, rfl | rfl, hlen, hds⟩
    · rw [hkey, List.nil_append, keyDigits_of_forall hds]
      exact ⟨hlen, hds⟩
    · rw [hkey]
      exact ⟨hlen, hds⟩
  · rintro ⟨hlen, hds⟩
    obtain ⟨mark, hkey, hmark⟩ := exists_mark key.toList
    exact ⟨mark, _, hkey, hmark, hlen, hds⟩

theorem SpellsBytes.unique (h : SpellsBytes key n) (h' : SpellsBytes key m) : n = m := by
  have hn := (spellsBytes_iff.1 h).1
  have hm := (spellsBytes_iff.1 h').1
  omega

/-! ## Problems -/

/-- A key that spells bytes has the wrong number of them or no problem. -/
theorem SpellsBytes.keyProblem?_eq (h : SpellsBytes key n) :
    keyProblem? key = if n = 32 then none else some (.wrongLength n) := by
  obtain ⟨hlen, hds⟩ := spellsBytes_iff.1 h
  have hall : (keyDigits key.toList).all Decimal.isHexDigit = true :=
    List.all_eq_true.2 fun c hc => isHexDigit_iff.2 (hds c hc)
  have hhalf : 2 * n / 2 = n := by omega
  simp [keyProblem?, hall, hlen, hhalf, privateKeyBytes]

theorem keyProblem?_eq_notHex (h : ∀ n, ¬ SpellsBytes key n) : keyProblem? key = some .notHex := by
  unfold keyProblem?
  dsimp only
  split
  · rename_i hdigits
    obtain ⟨hall, heven⟩ := Bool.and_eq_true_iff.1 hdigits
    rw [beq_iff_eq] at heven
    refine absurd (spellsBytes_iff.2 ⟨?_, fun c hc => ?_⟩) (h ((keyDigits key.toList).length / 2))
    · omega
    · exact isHexDigit_iff.1 (List.all_eq_true.1 hall c hc)
  · rfl

/-- Whatever the key, it spells a number of bytes or none. -/
theorem spellsBytes_cases (key : String) :
    (∃ n, SpellsBytes key n ∧ keyProblem? key = if n = 32 then none else some (.wrongLength n)) ∨
      (∀ n, ¬ SpellsBytes key n) ∧ keyProblem? key = some .notHex := by
  by_cases h : ∃ n, SpellsBytes key n
  · obtain ⟨n, hn⟩ := h
    exact .inl ⟨n, hn, hn.keyProblem?_eq⟩
  · rw [not_exists] at h
    exact .inr ⟨h, keyProblem?_eq_notHex h⟩

theorem keyProblem?_eq_none_iff : keyProblem? key = none ↔ SpellsBytes key 32 := by
  constructor
  · intro h
    obtain ⟨n, hn, heq⟩ | ⟨-, heq⟩ := spellsBytes_cases key
    · rw [heq] at h
      split at h
      · rename_i h32
        exact h32 ▸ hn
      · cases h
    · rw [heq] at h
      cases h
  · exact fun h => h.keyProblem?_eq

theorem keyProblem?_eq_wrongLength_iff :
    keyProblem? key = some (.wrongLength n) ↔ SpellsBytes key n ∧ n ≠ 32 := by
  constructor
  · intro h
    obtain ⟨m, hm, heq⟩ | ⟨-, heq⟩ := spellsBytes_cases key
    · rw [heq] at h
      split at h
      · cases h
      · rename_i h32
        obtain rfl := KeyProblem.wrongLength.inj (Option.some.inj h)
        exact ⟨hm, h32⟩
    · rw [heq] at h
      cases h
  · rintro ⟨h, h32⟩
    rw [h.keyProblem?_eq, if_neg h32]

theorem keyProblem?_eq_notHex_iff :
    keyProblem? key = some .notHex ↔ ∀ n, ¬ SpellsBytes key n := by
  refine ⟨fun h n hn => ?_, keyProblem?_eq_notHex⟩
  rw [hn.keyProblem?_eq] at h
  split at h <;> cases h

/-! ## Where a key that spells nothing breaks off -/

theorem utf8ByteSize_eq (key : String) : key.utf8ByteSize = (bytesOf key.toList).length := by
  have hbytes : key.toByteArray = key.toList.utf8Encode := by
    rw [← String.toByteArray_ofList, String.ofList_toList]
  rw [← String.size_toByteArray, hbytes, List.utf8Encode, bytesOf, List.size_toByteArray]

theorem length_bytesOf (h : ∀ c ∈ cs, c ∈ hexDigits) : (bytesOf cs).length = cs.length := by
  have hone : hexDigits.all (fun c => (String.utf8EncodeChar c).length == 1) = true := by decide
  induction cs with
  | nil => rfl
  | cons c cs ih =>
    obtain ⟨hc, hcs⟩ := List.forall_mem_cons.1 h
    rw [bytesOf, List.flatMap_cons, List.length_append, eq_of_beq (List.all_eq_true.1 hone c hc),
      ← bytesOf, ih hcs, List.length_cons, Nat.add_comm]

/-- What is taken off before the digits has no bearing on whether the number of bytes is odd. -/
theorem length_bytesOf_mod_two (h : ∀ c ∈ keyDigits cs, c ∈ hexDigits) :
    (bytesOf cs).length % 2 = (keyDigits cs).length % 2 := by
  obtain ⟨mark, hcs, hmark⟩ := exists_mark cs
  have hlen : (bytesOf cs).length = (bytesOf mark).length + (bytesOf (keyDigits cs)).length := by
    rw [← List.length_append, bytesOf, bytesOf, bytesOf, ← List.flatMap_append, ← hcs]
  have heven : (bytesOf mark).length % 2 = 0 := by
    rcases hmark with rfl | rfl <;> decide
  rw [hlen, length_bytesOf h]
  omega

/-- A character that spells nothing: it is no digit, and not the letter of a `0x` at the start. -/
def HasForeign (cs : List Char) : Prop :=
  ∃ before c after, cs = before ++ c :: after ∧ c ∉ hexDigits ∧ ¬ (before = ['0'] ∧ c = 'x')

/-- Behind one `0x` there are digits only, unless a character spells nothing. -/
theorem mem_hexDigits_of_not_hasForeign (h : ¬ HasForeign cs) :
    ∀ c ∈ keyDigits cs, c ∈ hexDigits := by
  intro c hc
  by_contra hnot
  obtain ⟨mark, hcs, hmark⟩ := exists_mark cs
  obtain ⟨before, after, hds⟩ := List.append_of_mem hc
  refine h ⟨mark ++ before, c, after, ?_, hnot, ?_⟩
  · rw [List.append_assoc, ← hds, ← hcs]
  · rintro ⟨hstart, rfl⟩
    -- otherwise a `0x` would stand where one has been taken off or none begins
    rcases hmark with rfl | rfl
    · obtain rfl : before = ['0'] := hstart
      rw [hds] at hcs
      rw [hcs] at hds
      have hlen : after.length = after.length + 2 := congrArg List.length hds
      omega
    · simp at hstart

theorem not_hasForeign_of_spellsBytes (h : SpellsBytes key n) : ¬ HasForeign key.toList := by
  rintro ⟨before, c, after, hkey, hnot, hmark⟩
  obtain ⟨mark, ds, hspells, hcases, -, hds⟩ := h
  have hafter : ∀ front back, ds = front ++ c :: back → False := by
    rintro front back rfl
    exact hnot (hds c (by simp))
  have heq : mark ++ ds = before ++ c :: after := hspells.symm.trans hkey
  rcases hcases with rfl | rfl
  · exact hafter before after heq
  · cases before with
    | nil =>
      obtain ⟨rfl, -⟩ := List.cons.inj heq
      exact hnot (by decide)
    | cons a before =>
      obtain ⟨rfl, hrest⟩ := List.cons.inj heq
      cases before with
      | nil =>
        obtain ⟨rfl, -⟩ := List.cons.inj hrest
        exact hmark ⟨rfl, rfl⟩
      | cons b before => exact hafter before after (List.cons.inj hrest).2

/-- A key spells no bytes exactly if it has an odd number of them or a character that spells
nothing. -/
theorem forall_not_spellsBytes_iff :
    (∀ n, ¬ SpellsBytes key n) ↔ key.utf8ByteSize % 2 = 1 ∨ HasForeign key.toList := by
  rw [utf8ByteSize_eq]
  constructor
  · intro h
    by_contra hcontra
    rw [not_or] at hcontra
    obtain ⟨hsize, hforeign⟩ := hcontra
    have hds := mem_hexDigits_of_not_hasForeign hforeign
    rw [length_bytesOf_mod_two hds] at hsize
    exact h ((keyDigits key.toList).length / 2) (spellsBytes_iff.2 ⟨by omega, hds⟩)
  · rintro (hodd | hforeign) n hn
    · obtain ⟨hlen, hds⟩ := spellsBytes_iff.1 hn
      rw [length_bytesOf_mod_two hds] at hodd
      omega
    · exact not_hasForeign_of_spellsBytes hn hforeign

/-! ## Decoding the bytes -/

theorem exists_utf8EncodeChar_eq_cons (h : 128 ≤ c.toNat) :
    ∃ b rest, String.utf8EncodeChar c = b :: rest ∧ 128 ≤ b.toNat := by
  have hbyte : ∀ n, 128 ≤ n → n < 256 → 128 ≤ (UInt8.ofNat n).toNat := fun n hn hlt => by
    rwa [UInt8.toNat_ofNat_of_lt' hlt]
  have hlong : ¬ c.val.toNat ≤ 127 := Nat.not_le.2 h
  unfold String.utf8EncodeChar
  dsimp only
  rw [if_neg hlong]
  split
  · exact ⟨_, _, rfl, hbyte _ (by omega) (by omega)⟩
  · split
    · exact ⟨_, _, rfl, hbyte _ (by omega) (by omega)⟩
    · exact ⟨_, _, rfl, hbyte _ (by omega) (by omega)⟩

theorem forall_mem_utf8EncodeChar_iff :
    (∀ b ∈ String.utf8EncodeChar c, b ∈ bytesOf hexDigits) ↔ c ∈ hexDigits := by
  have hsmall : (bytesOf hexDigits).all (·.toNat < 128) = true := by decide
  have hchar : (bytesOf hexDigits).all (Char.ofNat ·.toNat ∈ hexDigits) = true := by decide
  simp only [List.all_eq_true, decide_eq_true_eq] at hsmall hchar
  constructor
  · intro h
    by_cases hascii : c.toNat < 128
    · have hencode : String.utf8EncodeChar c = [UInt8.ofNat c.toNat] :=
        if_pos (Nat.le_of_lt_succ hascii)
      have hb := hchar _ (h (UInt8.ofNat c.toNat) (by simp [hencode]))
      rwa [UInt8.toNat_ofNat_of_lt' (Nat.lt_trans hascii (by decide)), Char.ofNat_toNat] at hb
    · obtain ⟨b, rest, hencode, hb⟩ := exists_utf8EncodeChar_eq_cons (Nat.le_of_not_lt hascii)
      exact absurd (hsmall b (h b (by simp [hencode]))) (Nat.not_lt.2 hb)
  · intro hc b hb
    exact List.mem_flatMap.2 ⟨c, hc, hb⟩

theorem forall_mem_bytesOf_iff :
    (∀ b ∈ bytesOf cs, b ∈ bytesOf hexDigits) ↔ ∀ c ∈ cs, c ∈ hexDigits := by
  simp only [← forall_mem_utf8EncodeChar_iff]
  constructor
  · exact fun h c hc b hb => h b (List.mem_flatMap.2 ⟨c, hc, hb⟩)
  · intro h b hb
    obtain ⟨c, hc, hbc⟩ := List.mem_flatMap.1 hb
    exact h c hc b hbc

/-- Every decoder of hexadecimal digits finds the same problem. -/
theorem keyProblemOf_eq {decode : List UInt8 → Option (List UInt8)} (hdecode : DecodesHex decode)
    (key : String) : keyProblemOf decode key = keyProblem? key := by
  unfold keyProblemOf
  cases hdecoded : decode (bytesOf (keyDigits key.toList)) with
  | none =>
    refine (keyProblem?_eq_notHex fun n hn => ?_).symm
    obtain ⟨hlen, hds⟩ := spellsBytes_iff.1 hn
    obtain hodd | ⟨b, hb, hnot⟩ := (hdecode.eq_none_iff _).1 hdecoded
    · rw [length_bytesOf hds] at hodd
      omega
    · exact hnot (forall_mem_bytesOf_iff.2 hds b hb)
  | some decoded =>
    have hgood := (hdecode.eq_none_iff (bytesOf (keyDigits key.toList))).not.1 (by simp [hdecoded])
    rw [not_or] at hgood
    have hds : ∀ c ∈ keyDigits key.toList, c ∈ hexDigits := forall_mem_bytesOf_iff.1 fun b hb =>
      not_not.1 fun hnot => hgood.2 ⟨b, hb, hnot⟩
    have hlen := hdecode.length_eq _ _ hdecoded
    rw [length_bytesOf hds] at hlen
    exact (SpellsBytes.keyProblem?_eq (spellsBytes_iff.2 ⟨hlen, hds⟩)).symm

/-! ## What is said of a key -/

theorem ofNat_inj : Decimal.ofNat n = Decimal.ofNat m ↔ n = m := by
  refine ⟨fun h => ?_, fun h => h ▸ rfl⟩
  have hdigits : Decimal.digits 10 n = Decimal.digits 10 m := String.ofList_inj.1 h
  have hvalue : Decimal.value? 10 (Decimal.digits 10 n) = some n :=
    Decimal.value?_digits (by decide) (by decide) n
  rw [hdigits, Decimal.value?_digits (by decide) (by decide)] at hvalue
  exact (Option.some.inj hvalue).symm

/-- Different problems are told apart by what is said of them. -/
theorem KeyProblem.message_inj {p q : KeyProblem} : p.message = q.message ↔ p = q := by
  refine ⟨fun h => ?_, fun h => h ▸ rfl⟩
  have hfirst : ∀ n, (wrongLength n).message ≠ notHex.message := by
    intro n hn
    have hhead := congrArg (·.toList.head?) hn
    simp [message] at hhead
  cases p with
  | notHex =>
    cases q with
    | notHex => rfl
    | wrongLength m => exact absurd h.symm (hfirst m)
  | wrongLength n =>
    cases q with
    | notHex => exact absurd h (hfirst n)
    | wrongLength m =>
      simp only [message, String.append_right_inj] at h
      rw [ofNat_inj.1 h]

theorem KeyProblem.message_wrongLength (n : Nat) :
    (wrongLength n).message = "must be 32 bytes, got " ++ Decimal.ofNat n := by
  have hbytes : "must be " ++ Decimal.ofNat privateKeyBytes ++ " bytes, got "
      = "must be 32 bytes, got " := by decide +kernel
  rw [message, hbytes]

/-- What is said of a key tells its problem. -/
theorem map_message_eq_some_iff {p : KeyProblem} :
    (keyProblem? key).map KeyProblem.message = some p.message ↔ keyProblem? key = some p := by
  rw [Option.map_eq_some_iff]
  constructor
  · rintro ⟨q, hq, hmessage⟩
    rw [hq, KeyProblem.message_inj.1 hmessage]
  · exact fun h => ⟨p, h, rfl⟩

theorem keyProblem?_of_hasForeign (h : HasForeign key.toList) : keyProblem? key = some .notHex :=
  keyProblem?_eq_notHex (forall_not_spellsBytes_iff.2 (.inr h))

theorem hasForeign_of_mem (hc : c ∈ cs) (h : Text.isBlank c = true ∨ 128 ≤ c.toNat) :
    HasForeign cs := by
  have hsolid : ('x' :: hexDigits).all (fun c => !Text.isBlank c && c.toNat < 128) = true := by
    decide
  have hnot : c ∉ 'x' :: hexDigits := by
    intro hmem
    have hboth := List.all_eq_true.1 hsolid c hmem
    rw [Bool.and_eq_true, Bool.not_eq_true', decide_eq_true_eq] at hboth
    rcases h with h | h
    · rw [hboth.1] at h
      cases h
    · omega
  rw [List.mem_cons, not_or] at hnot
  obtain ⟨before, after, hcs⟩ := List.append_of_mem hc
  exact ⟨before, c, after, hcs, hnot.2, fun hmark => hnot.1 hmark.2⟩

/-- **Private keys are told apart exactly.** A key is well formed exactly if it spells 32 bytes. The
length is complained of, with the number of bytes, exactly if the key spells another number of them,
and the digits exactly if it spells none: if it has an odd number of bytes or a character that is no
digit, the letter of one small `0x` at the start apart. So a large `0X`, a second `0x`, a blank
anywhere and every character beyond ASCII are refused. The same is found by decoding the bytes with
any decoder of hexadecimal digits. -/
theorem key_classified (key : String) :
    (keyProblem? key = none ↔ SpellsBytes key 32) ∧
    (∀ n, (keyProblem? key).map KeyProblem.message
        = some ("must be 32 bytes, got " ++ Decimal.ofNat n) ↔ SpellsBytes key n ∧ n ≠ 32) ∧
    ((keyProblem? key).map KeyProblem.message = some "is not valid hex" ↔
      ∀ n, ¬ SpellsBytes key n) ∧
    ((∀ n, ¬ SpellsBytes key n) ↔ key.utf8ByteSize % 2 = 1 ∨ HasForeign key.toList) ∧
    (∀ rest, key = "0X" ++ rest ∨ key = "0x0x" ++ rest → keyProblem? key = some .notHex) ∧
    (∀ c ∈ key.toList, Text.isBlank c = true ∨ 128 ≤ c.toNat → keyProblem? key = some .notHex) ∧
    ∀ decode, DecodesHex decode → keyProblemOf decode key = keyProblem? key := by
  refine ⟨keyProblem?_eq_none_iff, fun n => ?_, ?_, forall_not_spellsBytes_iff, fun rest h => ?_,
    fun c hc h => keyProblem?_of_hasForeign (hasForeign_of_mem hc h),
    fun decode hdecode => keyProblemOf_eq hdecode key⟩
  · rw [← KeyProblem.message_wrongLength, map_message_eq_some_iff, keyProblem?_eq_wrongLength_iff]
  · exact map_message_eq_some_iff.trans keyProblem?_eq_notHex_iff
  · refine keyProblem?_of_hasForeign ?_
    rcases h with rfl | rfl
    · exact ⟨['0'], 'X', rest.toList, by simp, by decide, by decide⟩
    · exact ⟨['0', 'x', '0'], 'x', rest.toList, by simp, by decide, by decide⟩

/-- Decode two digits for each byte. -/
def decodePairs? : List UInt8 → Option (List UInt8)
  | [] => some []
  | [_] => none
  | high :: low :: rest => do
    let high ← Decimal.digitValue? (Char.ofNat high.toNat)
    let low ← Decimal.digitValue? (Char.ofNat low.toNat)
    return UInt8.ofNat (16 * high + low) :: (← decodePairs? rest)

theorem digitValue?_eq_none_iff (b : UInt8) :
    Decimal.digitValue? (Char.ofNat b.toNat) = none ↔ b ∉ bytesOf hexDigits := by
  have hall : ∀ n < 256, Decimal.digitValue? (Char.ofNat n) = none ↔
      UInt8.ofNat n ∉ bytesOf hexDigits := by decide +kernel
  rw [hall b.toNat b.toNat_lt, UInt8.ofNat_toNat]

theorem decodesHex_decodePairs? : DecodesHex decodePairs? where
  eq_none_iff bytes := by
    fun_induction decodePairs? bytes with
    | case1 => simp
    | case2 => simp
    | case3 high low rest ih =>
      have hparity : (rest.length + 1 + 1) % 2 = rest.length % 2 := by omega
      simp only [bind, Option.bind_eq_none_iff, pure, reduceCtorEq, imp_false, List.length_cons,
        hparity, List.mem_cons, exists_eq_or_imp, ← digitValue?_eq_none_iff] at ih ⊢
      cases hhigh : Decimal.digitValue? (Char.ofNat high.toNat) with
      | none => simp
      | some a =>
        cases hlow : Decimal.digitValue? (Char.ofNat low.toNat) with
        | none => simp
        | some b => simp [← Option.eq_none_iff_forall_ne_some, ih]
  length_eq bytes := by
    fun_induction decodePairs? bytes with
    | case1 => simp
    | case2 => simp
    | case3 high low rest ih =>
      intro decoded h
      obtain ⟨a, -, h⟩ := Option.bind_eq_some_iff.1 h
      obtain ⟨b, -, h⟩ := Option.bind_eq_some_iff.1 h
      obtain ⟨tail, htail, h⟩ := Option.bind_eq_some_iff.1 h
      obtain rfl := Option.some.inj h
      have hlen := ih tail htail
      simp only [List.length_cons]
      omega

/-- Small and large digits behind a mark are read as 32 bytes; behind a mark alone there are none,
and a large mark or a wide blank makes the whole text none. -/
theorem key_classified_edge :
    let key := "0x" ++ String.ofList (List.replicate 32 'a' ++ List.replicate 32 'F')
    SpellsBytes key 32 ∧ DecodesHex decodePairs? ∧ keyProblemOf decodePairs? key = none ∧
      (keyProblem? "0x").map KeyProblem.message = some "must be 32 bytes, got 0" ∧
      keyProblem? ("0X" ++ "00") = some .notHex ∧
      '\u3000' ∈ "00\u3000".toList ∧ keyProblem? "00\u3000" = some .notHex := by
  intro key
  have hkey : keyProblem? key = none := by decide
  obtain ⟨hvalid, -, -, -, -, -, hsame⟩ := key_classified key
  obtain ⟨-, hlength, -⟩ := key_classified "0x"
  obtain ⟨-, -, -, -, hmarks, -⟩ := key_classified ("0X" ++ "00")
  obtain ⟨-, -, -, -, -, hblank, -⟩ := key_classified "00\u3000"
  have hnone : SpellsBytes "0x" 0 := ⟨['0', 'x'], [], rfl, .inr rfl, rfl, List.forall_mem_nil _⟩
  refine ⟨hvalid.1 hkey, decodesHex_decodePairs?, (hsame _ decodesHex_decodePairs?).trans hkey,
    ?_, hmarks "00" (.inl rfl), by decide, hblank '\u3000' (by decide) (.inl (by decide))⟩
  rw [(hlength 0).2 ⟨hnone, by decide⟩]
  decide +kernel

end NodeAudit.Profile
