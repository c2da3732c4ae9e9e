import PaymentRelay.Bytes.Utf8

/-!
# Reading back UTF-8

The octets of a text spell that text, in the strict reading and in the lenient one. Both readings
are the same machine at a character boundary, so all there is to say is that the octets of one
character bring the machine from one boundary to the next; the rest is induction on the text. In the
strict reading no other octets spell a text: the bounds on the second octet of a character leave
room for its shortest form alone.

A text of ASCII characters is its octets one by one, and so octets below 0x80 can be taken for a
text and back.
-/

namespace PaymentRelay

namespace Utf8

/-- The character to which octets complete an unfinished one, if they complete it exactly. -/
def Unfinished.completed? (u : Unfinished) : Bytes → Option Char
  | [] => none
  | b :: bs =>
    match u.push b with
    | some (.inl c) => if bs = [] then some c else none
    | some (.inr v) => v.completed? bs
    | none => none

theorem toNat_toUInt8 {n : Nat} (h : n < 256) : n.toUInt8.toNat = n := by
  simp [Nat.toUInt8, Nat.mod_eq_of_lt h]

theorem toUInt8_toNat (b : UInt8) : b.toNat.toUInt8 = b :=
  UInt8.toNat_inj.mp (toNat_toUInt8 b.toNat_lt)

theorem Unfinished.push_toUInt8 (u : Unfinished) {n : Nat} (small : n < 256)
    (low : u.low.toNat ≤ n) (high : n ≤ u.high.toNat) :
    u.push n.toUInt8 = if u.more ≤ 1 then some (.inl (Char.ofNat (u.code * 0x40 + (n - 0x80))))
      else some (.inr ⟨u.code * 0x40 + (n - 0x80), u.seen + 1, u.more - 1, 0x80, 0xBF⟩) := by
  have between : (n.toUInt8 < u.low || u.high < n.toUInt8) = false := by
    simp [UInt8.lt_iff_toNat_lt, toNat_toUInt8 small]
    omega
  rw [push, between, toNat_toUInt8 small]
  simp

theorem lead_toUInt8 {n : Nat} (small : n < 256) : lead n.toUInt8 =
    if n < 0x80 then .whole (Char.ofNat n)
    else if n < 0xC2 then .invalid
    else if n < 0xE0 then .begins ⟨n - 0xC0, 1, 1, 0x80, 0xBF⟩
    else if n = 0xE0 then .begins ⟨0, 1, 2, 0xA0, 0xBF⟩
    else if n = 0xED then .begins ⟨0xD, 1, 2, 0x80, 0x9F⟩
    else if n < 0xF0 then .begins ⟨n - 0xE0, 1, 2, 0x80, 0xBF⟩
    else if n = 0xF0 then .begins ⟨0, 1, 3, 0x90, 0xBF⟩
    else if n < 0xF4 then .begins ⟨n - 0xF0, 1, 3, 0x80, 0xBF⟩
    else if n = 0xF4 then .begins ⟨4, 1, 3, 0x80, 0x8F⟩
    else .invalid := by
  simp [lead, UInt8.lt_iff_toNat_lt, ← UInt8.toNat_inj, toNat_toUInt8 small]

theorem Unfinished.completed?_last (u : Unfinished) {n : Nat} (one : u.more = 1)
    (small : n < 256) (low : u.low.toNat ≤ n) (high : n ≤ u.high.toNat) :
    u.completed? [n.toUInt8] = some (Char.ofNat (u.code * 0x40 + (n - 0x80))) := by
  rw [completed?, u.push_toUInt8 small low high, if_pos (Nat.le_of_eq one)]
  simp

theorem Unfinished.completed?_more (u : Unfinished) {n : Nat} {bs : Bytes} (more : 1 < u.more)
    (small : n < 256) (low : u.low.toNat ≤ n) (high : n ≤ u.high.toNat) :
    u.completed? (n.toUInt8 :: bs)
      = (⟨u.code * 0x40 + (n - 0x80), u.seen + 1, u.more - 1, 0x80, 0xBF⟩ :
        Unfinished).completed? bs := by
  rw [completed?, u.push_toUInt8 small low high, if_neg (Nat.not_le_of_lt more)]

theorem lead_three {n : Nat} (least : 0x800 ≤ n) (small : n < 0x10000)
    (valid : n < 0xD800 ∨ 0xDFFF < n) :
    ∃ low high, lead (0xE0 + n / 0x1000).toUInt8 = .begins ⟨n / 0x1000, 1, 2, low, high⟩ ∧
      low.toNat ≤ 0x80 + n / 0x40 % 0x40 ∧ 0x80 + n / 0x40 % 0x40 ≤ high.toNat := by
  rw [lead_toUInt8 (by omega), if_neg (by omega), if_neg (by omega), if_neg (by omega)]
  by_cases first : n / 0x1000 = 0
  · rw [if_pos (by omega), first]
    exact ⟨0xA0, 0xBF, rfl, by simp; omega, by simp; omega⟩
  rw [if_neg (by omega)]
  by_cases surrogates : n / 0x1000 = 0xD
  · rw [if_pos (by omega), surrogates]
    exact ⟨0x80, 0x9F, rfl, by simp, by simp; omega⟩
  rw [if_neg (by omega), if_pos (by omega), Nat.add_sub_cancel_left]
  exact ⟨0x80, 0xBF, rfl, by simp, by simp; omega⟩

theorem lead_four {n : Nat} (least : 0x10000 ≤ n) (small : n < 0x110000) :
    ∃ low high, lead (0xF0 + n / 0x40000).toUInt8 = .begins ⟨n / 0x40000, 1, 3, low, high⟩ ∧
      low.toNat ≤ 0x80 + n / 0x1000 % 0x40 ∧ 0x80 + n / 0x1000 % 0x40 ≤ high.toNat := by
  rw [lead_toUInt8 (by omega), if_neg (by omega), if_neg (by omega), if_neg (by omega),
    if_neg (by omega), if_neg (by omega), if_neg (by omega)]
  by_cases first : n / 0x40000 = 0
  · rw [if_pos (by omega), first]
    exact ⟨0x90, 0xBF, rfl, by simp; omega, by simp; omega⟩
  rw [if_neg (by omega)]
  by_cases last : n / 0x40000 = 4
  · rw [if_neg (by omega), if_pos (by omega), last]
    exact ⟨0x80, 0x8F, rfl, by simp, by simp; omega⟩
  rw [if_pos (by omega), Nat.add_sub_cancel_left]
  exact ⟨0x80, 0xBF, rfl, by simp, by simp; omega⟩

/-- How octets say a character: the first of them alone, or the first and those that complete it. -/
def Spells (c : Char) : Bytes → Prop
  | [] => False
  | b :: bs => (lead b = .whole c ∧ bs = []) ∨ ∃ u, lead b = .begins u ∧ u.completed? bs = some c

/-- **The octets of a character say that character.** -/
theorem spells_encodeChar (c : Char) : Spells c (encodeChar c) := by
  have valid : c.toNat < 0xD800 ∨ (0xDFFF < c.toNat ∧ c.toNat < 0x110000) := c.valid
  have same : Char.ofNat c.toNat = c := Char.ofNat_toNat c
  rw [encodeChar]
  generalize c.toNat = n at valid same
  split
  · next one =>
    left
    rw [lead_toUInt8 (by omega), if_pos one, same]
    exact ⟨rfl, rfl⟩
  split
  · next one two =>
    right
    refine ⟨⟨n / 0x40, 1, 1, 0x80, 0xBF⟩, ?_, ?_⟩
    · rw [lead_toUInt8 (by omega), if_neg (by omega), if_neg (by omega), if_pos (by omega),
        Nat.add_sub_cancel_left]
    · have sum : n / 0x40 * 0x40 + (0x80 + n % 0x40 - 0x80) = n := by omega
      rw [Unfinished.completed?_last _ rfl (by omega) (by simp) (by simp; omega)]
      dsimp only
      rw [sum, same]
  split
  · next two three =>
    right
    obtain ⟨low, high, begins, above, below⟩ := lead_three (n := n) (by omega) three (by omega)
    have sum : (n / 0x1000 * 0x40 + (0x80 + n / 0x40 % 0x40 - 0x80)) * 0x40
        + (0x80 + n % 0x40 - 0x80) = n := by omega
    refine ⟨_, begins, ?_⟩
    rw [Unfinished.completed?_more _ (Nat.lt_succ_self 1) (by omega) above below,
      Unfinished.completed?_last _ rfl (by omega) (by simp) (by simp; omega)]
    dsimp only
    rw [sum, same]
  · next two three =>
    right
    obtain ⟨low, high, begins, above, below⟩ := lead_four (n := n) (by omega) (by omega)
    have sum : ((n / 0x40000 * 0x40 + (0x80 + n / 0x1000 % 0x40 - 0x80)) * 0x40
        + (0x80 + n / 0x40 % 0x40 - 0x80)) * 0x40 + (0x80 + n % 0x40 - 0x80) = n := by omega
    refine ⟨_, begins, ?_⟩
    rw [Unfinished.completed?_more _ (by simp) (by omega) above below,
      Unfinished.completed?_more _ (Nat.lt_succ_self 1) (by omega) (by simp) (by simp; omega),
      Unfinished.completed?_last _ rfl (by omega) (by simp) (by simp; omega)]
    dsimp only
    rw [sum, same]

/-! ## Whole texts -/

/-- Octets that complete a character to this one: the first is pushed, and either they are done with
or the others complete what it has become. -/
theorem Unfinished.completed?_cons {u : Unfinished} {b : UInt8} {bs : Bytes} {c : Char} :
    u.completed? (b :: bs) = some c ↔ (u.push b = some (.inl c) ∧ bs = []) ∨
      ∃ v, u.push b = some (.inr v) ∧ v.completed? bs = some c := by
  rw [completed?]
  rcases u.push b with _ | d | v
  · simp
  · by_cases last : bs = [] <;> simp [last]
  · simp

theorem decodeFrom_completed {u : Unfinished} {c : Char} {bs : Bytes} (done : List Char)
    (start : Nat) (rest : Bytes) (h : u.completed? bs = some c) :
    ∃ next, decodeFrom done start (some u) (bs ++ rest) =
      decodeFrom (c :: done) next none rest := by
  induction bs generalizing u with
  | nil => cases h
  | cons b bs ih =>
    rw [List.cons_append, decodeFrom]
    rcases Unfinished.completed?_cons.mp h with ⟨pushed, rfl⟩ | ⟨v, pushed, later⟩
    · rw [pushed, List.nil_append]
      exact ⟨_, rfl⟩
    · rw [pushed]
      exact ih later

/-- The strict reading passes over the octets of a character. -/
theorem decodeFrom_encodeChar (c : Char) (done : List Char) (start : Nat) (rest : Bytes) :
    ∃ next, decodeFrom done start none (encodeChar c ++ rest)
      = decodeFrom (c :: done) next none rest := by
  have spells := spells_encodeChar c
  match encodeChar c, spells with
  | b :: bs, .inl ⟨whole, ended⟩ =>
    rw [List.cons_append, decodeFrom, whole, ended, List.nil_append]
    exact ⟨_, rfl⟩
  | b :: bs, .inr ⟨u, begins, completed⟩ =>
    rw [List.cons_append, decodeFrom, begins]
    exact decodeFrom_completed done start rest completed

theorem decodeFrom_flatMap (cs done : List Char) (start : Nat) :
    decodeFrom done start none (cs.flatMap encodeChar) = .ok (done.reverse ++ cs) := by
  induction cs generalizing done start with
  | nil => simp [decodeFrom]
  | cons c cs ih =>
    rw [List.flatMap_cons]
    obtain ⟨next, passed⟩ := decodeFrom_encodeChar c done start (cs.flatMap encodeChar)
    rw [passed, ih]
    simp

/-- **What a text is written as is read as that text.** -/
theorem decode_utf8 (s : String) : decode (utf8 s) = .ok s := by
  rw [decode, utf8, decodeFrom_flatMap]
  simp [Except.map]

@[simp] theorem decode?_utf8 (s : String) : decode? (utf8 s) = some s := by
  rw [decode?, decode_utf8]
  rfl

/-! ## Nothing else is read as a text -/

theorem Unfinished.of_push {u : Unfinished} {b : UInt8} {x : Char ⊕ Unfinished}
    (pushed : u.push b = some x) : u.low.toNat ≤ b.toNat ∧ b.toNat ≤ u.high.toNat ∧
      x = if u.more ≤ 1 then .inl (Char.ofNat (u.code * 0x40 + (b.toNat - 0x80)))
        else .inr ⟨u.code * 0x40 + (b.toNat - 0x80), u.seen + 1, u.more - 1, 0x80, 0xBF⟩ := by
  unfold push at pushed
  split at pushed
  · cases pushed
  · next between =>
    simp only [Bool.or_eq_true, decide_eq_true_eq, UInt8.lt_iff_toNat_lt, not_or, Nat.not_lt]
      at between
    refine ⟨between.1, between.2, ?_⟩
    split at pushed
    · next last => rw [if_pos last, ← Option.some.inj pushed]
    · next last => rw [if_neg last, ← Option.some.inj pushed]

theorem Unfinished.of_completed?_last {u : Unfinished} {bs : Bytes} {c : Char} (one : u.more = 1)
    (h : u.completed? bs = some c) : ∃ b, bs = [b] ∧ u.low.toNat ≤ b.toNat ∧
      b.toNat ≤ u.high.toNat ∧ c = Char.ofNat (u.code * 0x40 + (b.toNat - 0x80)) := by
  rcases bs with _ | ⟨b, bs⟩
  · cases h
  rcases completed?_cons.mp h with ⟨pushed, rfl⟩ | ⟨v, pushed, -⟩ <;>
    obtain ⟨low, high, made⟩ := of_push pushed
  · rw [if_pos (Nat.le_of_eq one)] at made
    exact ⟨b, rfl, low, high, Sum.inl.inj made⟩
  · rw [if_pos (Nat.le_of_eq one)] at made
    cases made

theorem Unfinished.of_completed?_more {u : Unfinished} {bs : Bytes} {c : Char} (more : 1 < u.more)
    (h : u.completed? bs = some c) : ∃ b bs', bs = b :: bs' ∧ u.low.toNat ≤ b.toNat ∧
      b.toNat ≤ u.high.toNat ∧ (⟨u.code * 0x40 + (b.toNat - 0x80), u.seen + 1, u.more - 1, 0x80,
        0xBF⟩ : Unfinished).completed? bs' = some c := by
  rcases bs with _ | ⟨b, bs⟩
  · cases h
  rcases completed?_cons.mp h with ⟨pushed, -⟩ | ⟨v, pushed, later⟩ <;>
    obtain ⟨low, high, made⟩ := of_push pushed
  · rw [if_neg (Nat.not_le_of_lt more)] at made
    cases made
  · rw [if_neg (Nat.not_le_of_lt more)] at made
    obtain rfl := Sum.inr.inj made
    exact ⟨b, bs, rfl, low, high, later⟩

/-- What an octet begins: a character of two octets, of three or of four. The bounds on the second
octet say that no shorter form would do and that the value is a character's. -/
theorem of_lead_begins {b : UInt8} {u : Unfinished} (begins : lead b = .begins u) :
    0x80 ≤ u.low.toNat ∧ u.high.toNat ≤ 0xBF ∧
      ((u.more = 1 ∧ b.toNat = 0xC0 + u.code ∧ 2 ≤ u.code ∧ u.code < 0x20) ∨
        (u.more = 2 ∧ b.toNat = 0xE0 + u.code ∧ u.code < 0x10 ∧
          (u.code = 0 → 0xA0 ≤ u.low.toNat) ∧ (u.code = 0xD → u.high.toNat ≤ 0x9F)) ∨
        (u.more = 3 ∧ b.toNat = 0xF0 + u.code ∧ u.code ≤ 4 ∧
          (u.code = 0 → 0x90 ≤ u.low.toNat) ∧ (u.code = 4 → u.high.toNat ≤ 0x8F))) := by
  rw [← toUInt8_toNat b, lead_toUInt8 b.toNat_lt] at begins
  repeat' split at begins
  all_goals simp only [Lead.begins.injEq, reduceCtorEq] at begins
  all_goals
    subst begins
    simp
    omega

theorem encodeChar_ofNat {n : Nat} (valid : n < 0xD800 ∨ 0xDFFF < n ∧ n < 0x110000) :
    encodeChar (Char.ofNat n) =
      if n < 0x80 then [n.toUInt8]
      else if n < 0x800 then [(0xC0 + n / 0x40).toUInt8, (0x80 + n % 0x40).toUInt8]
      else if n < 0x10000 then
        [(0xE0 + n / 0x1000).toUInt8, (0x80 + n / 0x40 % 0x40).toUInt8, (0x80 + n % 0x40).toUInt8]
      else
        [(0xF0 + n / 0x40000).toUInt8, (0x80 + n / 0x1000 % 0x40).toUInt8,
          (0x80 + n / 0x40 % 0x40).toUInt8, (0x80 + n % 0x40).toUInt8] := by
  have same : (Char.ofNat n).toNat = n := by
    rw [Char.ofNat, dif_pos valid]
    rfl
  rw [encodeChar, same]

/-- **What says a character is what the character is written as.** -/
theorem encodeChar_of_spells {c : Char} {bs : Bytes} (spells : Spells c bs) :
    encodeChar c = bs := by
  rcases bs with _ | ⟨b, bs⟩
  · cases spells
  have octet {n : Nat} (b : UInt8) (same : n = b.toNat) : n.toUInt8 = b := same ▸ toUInt8_toNat b
  rcases spells with ⟨whole, rfl⟩ | ⟨u, begins, completed⟩
  · rw [← toUInt8_toNat b, lead_toUInt8 b.toNat_lt] at whole
    split at whole
    · next ascii =>
      injection whole with whole
      rw [← whole, encodeChar_ofNat (.inl (by omega)), if_pos ascii, toUInt8_toNat]
    · repeat' split at whole
      all_goals injection whole
  obtain ⟨least, most, ⟨more, first, code, code'⟩ | ⟨more, first, code, lower, upper⟩ |
    ⟨more, first, code, lower, upper⟩⟩ := of_lead_begins begins
  · obtain ⟨d, rfl, low, high, made⟩ := u.of_completed?_last more completed
    rw [made, encodeChar_ofNat (.inl (by omega)), if_neg (by omega), if_pos (by omega),
      octet b (by omega), octet d (by omega)]
  · obtain ⟨d, ds, rfl, low, high, completed⟩ := u.of_completed?_more (by omega) completed
    obtain ⟨e, rfl, low', high', made⟩ := Unfinished.of_completed?_last (by simp [more]) completed
    simp only [UInt8.reduceToNat] at low' high' made
    rw [made, encodeChar_ofNat (by omega), if_neg (by omega), if_neg (by omega), if_pos (by omega),
      octet b (by omega), octet d (by omega), octet e (by omega)]
  · obtain ⟨d, ds, rfl, low, high, completed⟩ := u.of_completed?_more (by omega) completed
    obtain ⟨e, es, rfl, low', high', completed⟩ :=
      Unfinished.of_completed?_more (by simp [more]) completed
    obtain ⟨f, rfl, low'', high'', made⟩ :=
      Unfinished.of_completed?_last (by simp [more]) completed
    simp only [UInt8.reduceToNat] at low' high' low'' high'' made
    rw [made, encodeChar_ofNat (by omega), if_neg (by omega), if_neg (by omega), if_neg (by omega),
      octet b (by omega), octet d (by omega), octet e (by omega), octet f (by omega)]

/-- A character under way is completed by some octets, and the reading goes on after them. -/
theorem of_decodeFrom_some {u : Unfinished} {bs : Bytes} {done cs : List Char} {start : Nat}
    (read : decodeFrom done start (some u) bs = .ok cs) :
    ∃ c front rest next, bs = front ++ rest ∧ u.completed? front = some c ∧
      decodeFrom (c :: done) next none rest = .ok cs := by
  induction bs generalizing u with
  | nil => cases read
  | cons b bs ih =>
    rw [decodeFrom] at read
    rcases pushed : u.push b with _ | c | v
    · rw [pushed] at read
      cases read
    · rw [pushed] at read
      exact ⟨c, [b], bs, _, rfl, Unfinished.completed?_cons.mpr (.inl ⟨pushed, rfl⟩), read⟩
    · rw [pushed] at read
      obtain ⟨c, front, rest, next, rfl, completed, later⟩ := ih read
      exact ⟨c, b :: front, rest, next, rfl,
        Unfinished.completed?_cons.mpr (.inr ⟨v, pushed, completed⟩), later⟩

/-- **What is read as a text is what the text is written as.** -/
theorem of_decodeFrom {bs : Bytes} {done cs : List Char} {start : Nat}
    (read : decodeFrom done start none bs = .ok cs) :
    ∃ more, cs = done.reverse ++ more ∧ more.flatMap encodeChar = bs := by
  induction hn : bs.length using Nat.strongRecOn generalizing bs done start with
  | _ n ih =>
    rcases bs with _ | ⟨b, bs⟩
    · cases read
      exact ⟨[], by simp, rfl⟩
    -- the octets of one character first, and then the others
    have next : ∃ c front rest next, bs = front ++ rest ∧ Spells c (b :: front) ∧
        decodeFrom (c :: done) next none rest = .ok cs := by
      rw [decodeFrom] at read
      rcases first : lead b with c | u | _
      · rw [first] at read
        exact ⟨c, [], bs, _, rfl, .inl ⟨first, rfl⟩, read⟩
      · rw [first] at read
        obtain ⟨c, front, rest, next, cut, completed, later⟩ := of_decodeFrom_some read
        exact ⟨c, front, rest, next, cut, .inr ⟨u, first, completed⟩, later⟩
      · rw [first] at read
        cases read
    obtain ⟨c, front, rest, start', rfl, spells, later⟩ := next
    obtain ⟨more, rfl, written⟩ := ih rest.length (by simp at hn; omega) later rfl
    refine ⟨c :: more, by simp, ?_⟩
    rw [List.flatMap_cons, encodeChar_of_spells spells, written]
    rfl

/-- **Octets are read as a text** if and only if they are what the text is written as. -/
theorem decode?_eq_some_iff {bs : Bytes} {s : String} : decode? bs = some s ↔ utf8 s = bs := by
  constructor
  · intro read
    rw [decode?, decode] at read
    rcases found : decodeFrom [] 0 none bs with fault | cs
    · rw [found] at read
      cases read
    · rw [found] at read
      obtain ⟨more, rfl, written⟩ := of_decodeFrom found
      cases read
      simpa [utf8] using written
  · rintro rfl
    exact decode?_utf8 s

/-! ## The lenient reading -/

theorem lenientFrom_completed {u : Unfinished} {c : Char} {bs : Bytes} (done : List Char)
    (rest : Bytes) (h : u.completed? bs = some c) :
    lenientFrom done (some u) (bs ++ rest) = lenientFrom (c :: done) none rest := by
  induction bs generalizing u with
  | nil => cases h
  | cons b bs ih =>
    rw [List.cons_append, lenientFrom]
    rcases Unfinished.completed?_cons.mp h with ⟨pushed, rfl⟩ | ⟨v, pushed, later⟩
    · rw [pushed, List.nil_append]
    · rw [pushed]
      exact ih later

theorem lenientFrom_encodeChar (c : Char) (done : List Char) (rest : Bytes) :
    lenientFrom done none (encodeChar c ++ rest) = lenientFrom (c :: done) none rest := by
  have spells := spells_encodeChar c
  match encodeChar c, spells with
  | b :: bs, .inl ⟨whole, ended⟩ =>
    rw [List.cons_append, lenientFrom, whole, ended, List.nil_append]
  | b :: bs, .inr ⟨u, begins, completed⟩ =>
    rw [List.cons_append, lenientFrom, begins]
    exact lenientFrom_completed done rest completed

theorem lenientFrom_flatMap (cs done : List Char) :
    lenientFrom done none (cs.flatMap encodeChar) = done.reverse ++ cs := by
  induction cs generalizing done with
  | nil => simp [lenientFrom]
  | cons c cs ih =>
    rw [List.flatMap_cons, lenientFrom_encodeChar, ih]
    simp

/-- **The lenient reading** does nothing to a text. -/
@[simp] theorem decodeLenient_utf8 (s : String) : decodeLenient (utf8 s) = s := by
  rw [decodeLenient, utf8, lenientFrom_flatMap]
  simp

end Utf8

theorem utf8_injective {s t : String} (h : utf8 s = utf8 t) : s = t := by
  have read := Utf8.decode?_utf8 s
  rw [h, Utf8.decode?_utf8] at read
  exact (Option.some.inj read).symm

/-! ## ASCII -/

theorem utf8_append (s t : String) : utf8 (s ++ t) = utf8 s ++ utf8 t := by
  simp [utf8]

theorem toNat_of_mem_encodeChar {c : Char} {b : UInt8} (h : b ∈ encodeChar c) (ascii : b < 0x80) :
    c.toNat = b.toNat := by
  have valid : c.toNat < 0xD800 ∨ (0xDFFF < c.toNat ∧ c.toNat < 0x110000) := c.valid
  rw [UInt8.lt_iff_toNat_lt] at ascii
  have large {n : Nat} (small : n < 256) (least : 0x80 ≤ n) : b ≠ n.toUInt8 := by
    rintro rfl
    rw [Utf8.toNat_toUInt8 small] at ascii
    exact absurd ascii (Nat.not_lt_of_le least)
  rw [encodeChar] at h
  split at h
  · rw [List.mem_singleton.mp h, Utf8.toNat_toUInt8 (by omega)]
  split at h
  · simp only [List.mem_cons, List.not_mem_nil, or_false] at h
    rcases h with h | h <;> exact absurd h (large (by omega) (by omega))
  split at h
  · simp only [List.mem_cons, List.not_mem_nil, or_false] at h
    rcases h with h | h | h <;> exact absurd h (large (by omega) (by omega))
  · simp only [List.mem_cons, List.not_mem_nil, or_false] at h
    rcases h with h | h | h | h <;> exact absurd h (large (by omega) (by omega))

theorem mem_utf8_iff {s : String} {c : Char} (ascii : c.toNat < 0x80) :
    c.toNat.toUInt8 ∈ utf8 s ↔ c ∈ s.toList := by
  have number : c.toNat.toUInt8.toNat = c.toNat := Utf8.toNat_toUInt8 (by omega)
  have small : c.toNat.toUInt8 < 0x80 := by
    rw [UInt8.lt_iff_toNat_lt, number]
    exact ascii
  constructor
  · intro there
    obtain ⟨d, mem, octet⟩ := List.mem_flatMap.mp there
    have same : d.toNat = c.toNat := (toNat_of_mem_encodeChar octet small).trans number
    rwa [← Char.ofNat_toNat c, ← same, Char.ofNat_toNat]
  · intro there
    refine List.mem_flatMap.mpr ⟨c, there, ?_⟩
    rw [encodeChar, if_pos ascii]
    exact List.mem_singleton.mpr rfl

namespace Bytes

/-- The octets are those of ASCII characters. -/
def IsAscii (bs : Bytes) : Prop := ∀ b ∈ bs, b < 0x80

@[simp] theorem isAscii_nil : IsAscii [] := by
  simp [IsAscii]

@[simp] theorem isAscii_cons {b : UInt8} {bs : Bytes} :
    IsAscii (b :: bs) ↔ b < 0x80 ∧ bs.IsAscii := by
  simp [IsAscii]

@[simp] theorem isAscii_append {as bs : Bytes} : (as ++ bs).IsAscii ↔ as.IsAscii ∧ bs.IsAscii := by
  simp [IsAscii, or_imp, forall_and]

theorem IsAscii.utf8_toText {bs : Bytes} (ascii : bs.IsAscii) : utf8 bs.toText = bs := by
  rw [utf8, toText, String.toList_ofList, List.flatMap_map]
  induction bs with
  | nil => rfl
  | cons b bs ih =>
    obtain ⟨here, there⟩ := isAscii_cons.mp ascii
    have one : encodeChar (Char.ofNat b.toNat) = [b] := by
      have small : b.toNat < 0x80 := UInt8.lt_iff_toNat_lt.mp here
      have same : (Char.ofNat b.toNat).toNat = b.toNat := by
        rw [Char.ofNat, dif_pos (Or.inl (by omega))]
        rfl
      rw [encodeChar, same, if_pos small]
      simp
    rw [List.flatMap_cons, one, ih there]
    rfl

end Bytes

end PaymentRelay
