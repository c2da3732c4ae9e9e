import PaymentRelay.Proofs.Bytes.Split
import PaymentRelay.Proofs.Bytes.Utf8
import PaymentRelay.Text.Form

/-!
# Reading back query strings

A query string that was written from pairs of texts is read as just those pairs, in order. An
encoded piece stands for what was encoded, whatever octets that were, and neither of the signs that
hold a query string together occurs in one.
-/

namespace PaymentRelay.Form

/-! ## Octets -/

/-- What holds of all numbers below 256 holds of all octets. -/
theorem forall_octet {p : UInt8 → Prop} (h : ∀ n < 256, p (UInt8.ofNat n)) (b : UInt8) : p b := by
  simpa using h b.toNat b.toNat_lt

/-- What stands in an encoded piece: printable ASCII, and no sign that separates. -/
def IsEncoded (b : UInt8) : Prop := 0x20 < b ∧ b < 0x80 ∧ b ≠ 0x26 ∧ b ≠ 0x3D

instance : DecidablePred IsEncoded := fun _ ↦ inferInstanceAs (Decidable (_ ∧ _))

theorem of_isPlain {b : UInt8} : isPlain b = true → b ≠ 0x25 ∧ b ≠ 0x2B ∧ IsEncoded b :=
  forall_octet (p := fun b ↦ isPlain b = true → b ≠ 0x25 ∧ b ≠ 0x2B ∧ IsEncoded b)
    (by decide +kernel) b

theorem of_hexDigit {n : UInt8} (h : n < 16) :
    hex? (hexDigit n) = some n ∧ IsEncoded (hexDigit n) := by
  have all : ∀ n < 16, hex? (hexDigit (UInt8.ofNat n)) = some (UInt8.ofNat n) ∧
      IsEncoded (hexDigit (UInt8.ofNat n)) := by decide +kernel
  simpa using all n.toNat (UInt8.lt_iff_toNat_lt.mp h)

theorem halves (b : UInt8) : b / 16 < 16 ∧ b % 16 < 16 ∧ b / 16 * 16 + b % 16 = b := by
  have small := b.toNat_lt
  simp only [UInt8.lt_iff_toNat_lt, ← UInt8.toNat_inj, UInt8.toNat_div, UInt8.toNat_mod,
    UInt8.toNat_add, UInt8.toNat_mul]
  simp only [UInt8.reduceToNat]
  omega

theorem unescapeFrom_cons {b : UInt8} (done rest : Bytes) (h : b ≠ 0x25) :
    unescapeFrom done (b :: rest) = unescapeFrom ((if b = 0x2B then 0x20 else b) :: done) rest := by
  rw [unescapeFrom]
  rintro a c more rfl
  exact absurd rfl h

/-- **An octet is read back** from its encoded form. -/
theorem unescapeFrom_escapeOctet (b : UInt8) (done rest : Bytes) :
    unescapeFrom done (escapeOctet b ++ rest) = unescapeFrom (b :: done) rest := by
  rw [escapeOctet]
  split
  · next plain =>
    obtain ⟨noEscape, noSpace, -⟩ := of_isPlain plain
    rw [List.singleton_append, unescapeFrom_cons _ _ noEscape, if_neg noSpace]
  split
  · next space =>
    rw [List.singleton_append, unescapeFrom_cons _ _ (by decide), if_pos rfl, space]
  · obtain ⟨high, low, whole⟩ := halves b
    simp only [List.cons_append, List.nil_append, unescapeFrom, (of_hexDigit high).1,
      (of_hexDigit low).1, whole]

theorem unescapeFrom_escape (s done : Bytes) :
    unescapeFrom done (escape s) = done.reverse ++ s := by
  rw [escape]
  induction s generalizing done with
  | nil => simp [unescapeFrom]
  | cons b s ih =>
    rw [List.flatMap_cons, unescapeFrom_escapeOctet, ih]
    simp

/-- **A text is read back** from its encoded form. -/
@[simp] theorem unescape_escape (s : String) : unescape (escape (utf8 s)) = s := by
  rw [unescape, unescapeFrom_escape, List.reverse_nil, List.nil_append, Utf8.decodeLenient_utf8]

/-! ## Pairs -/

theorem isEncoded_of_mem_escape {b : UInt8} {s : Bytes} (h : b ∈ escape s) : IsEncoded b := by
  obtain ⟨c, -, there⟩ := List.mem_flatMap.mp h
  obtain ⟨high, low, -⟩ := halves c
  rw [escapeOctet] at there
  split at there
  · next plain => exact List.mem_singleton.mp there ▸ (of_isPlain plain).2.2
  split at there
  · rw [List.mem_singleton.mp there]
    decide
  · simp only [List.mem_cons, List.not_mem_nil, or_false] at there
    rcases there with rfl | rfl | rfl
    · decide
    · exact (of_hexDigit high).2
    · exact (of_hexDigit low).2

def writePair (p : String × String) : Bytes := escape (utf8 p.1) ++ 0x3D :: escape (utf8 p.2)

@[simp] theorem pairOf_writePair (p : String × String) : pairOf (writePair p) = p := by
  have noEquals : ∀ b ∈ escape (utf8 p.1), decide (b ≠ 0x3D) = true :=
    fun b there ↦ decide_eq_true (isEncoded_of_mem_escape there).2.2.2
  rw [pairOf, writePair, List.takeWhile_append_of_pos noEquals,
    List.dropWhile_append_of_pos noEquals]
  simp

theorem mem_writePair {b : UInt8} {p : String × String} (h : b ∈ writePair p) :
    0x20 < b ∧ b < 0x80 ∧ b ≠ 0x26 := by
  rw [writePair, List.mem_append, List.mem_cons] at h
  rcases h with there | rfl | there
  · exact (isEncoded_of_mem_escape there).imp_right fun h ↦ h.imp_right And.left
  · decide
  · exact (isEncoded_of_mem_escape there).imp_right fun h ↦ h.imp_right And.left

theorem write_eq (ps : List (String × String)) :
    write (ps.map fun p ↦ (utf8 p.1, utf8 p.2)) = [0x26].intercalate (ps.map writePair) := by
  rw [write, List.map_map]
  rfl

/-- **Pairs are read back** from their query string, in order. -/
theorem pairs_write (ps : List (String × String)) :
    pairs (write (ps.map fun p ↦ (utf8 p.1, utf8 p.2))) = ps := by
  rw [write_eq, pairs]
  by_cases none_ : ps = []
  · rw [none_]
    rfl
  have whole : Bytes.split 0x26 ([0x26].intercalate (ps.map writePair)) = ps.map writePair := by
    refine Bytes.split_intercalate (by simpa using none_) ?_
    intro piece there
    obtain ⟨p, -, rfl⟩ := List.mem_map.mp there
    exact fun ampersand ↦ (mem_writePair ampersand).2.2 rfl
  have some_ : (ps.map writePair).filter (!·.isEmpty) = ps.map writePair := by
    refine List.filter_eq_self.mpr ?_
    intro piece there
    obtain ⟨p, -, rfl⟩ := List.mem_map.mp there
    simp [writePair]
  rw [whole, some_, List.map_map]
  simp [Function.comp_def]

theorem mem_write {b : UInt8} {ps : List (String × String)}
    (h : b ∈ write (ps.map fun p ↦ (utf8 p.1, utf8 p.2))) : 0x20 < b ∧ b < 0x80 := by
  rw [write_eq] at h
  rcases Bytes.mem_intercalate h with rfl | ⟨piece, mem, there⟩
  · decide
  · obtain ⟨p, -, rfl⟩ := List.mem_map.mp mem
    exact (mem_writePair there).imp_right And.left

/-- The query string of a list of pairs of texts, itself as a text. -/
def query (ps : List (String × String)) : String :=
  (write (ps.map fun p ↦ (utf8 p.1, utf8 p.2))).toText

@[simp] theorem pairs_utf8_query (ps : List (String × String)) : pairs (utf8 (query ps)) = ps := by
  have ascii : Bytes.IsAscii (write (ps.map fun p ↦ (utf8 p.1, utf8 p.2))) :=
    fun _ there ↦ (mem_write there).2
  rw [query, ascii.utf8_toText, pairs_write]

end PaymentRelay.Form
