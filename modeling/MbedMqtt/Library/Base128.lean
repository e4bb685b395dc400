import Mathlib.Data.List.Basic
import Mathlib.Tactic.Ring
import Mathlib.Tactic.Linarith

namespace Base128

def encodeLoop : Nat → Nat → List UInt8
  | 0, length => [UInt8.ofNat (length % 128)]
  | fuel + 1, length =>
      if 0 < length / 128 then
        UInt8.ofNat (length % 128 + 128) :: encodeLoop fuel (length / 128)
      else [UInt8.ofNat (length % 128)]

def encode (n : Nat) : List UInt8 := encodeLoop n n

theorem encodeLoop_fuel {fuel fuel' length : Nat} (h : length ≤ fuel) (h' : length ≤ fuel') :
    encodeLoop fuel length = encodeLoop fuel' length := by
  induction fuel generalizing fuel' length with
  | zero =>
    obtain rfl : length = 0 := by omega
    cases fuel' <;> simp [encodeLoop]
  | succ fuel ih =>
    cases fuel' with
    | zero =>
      obtain rfl : length = 0 := by omega
      simp [encodeLoop]
    | succ fuel' =>
      simp only [encodeLoop]
      split
      · rw [ih (by omega) (by omega : length / 128 ≤ fuel')]
      · rfl

theorem encode_small {length : Nat} (h : length < 128) :
    encode length = [UInt8.ofNat length] := by
  have hdiv : length / 128 = 0 := by omega
  have hmod : length % 128 = length := by omega
  unfold encode
  cases length with
  | zero => rfl
  | succ n => simp [encodeLoop, hdiv, hmod]

theorem encode_step {length : Nat} (h : 128 ≤ length) :
    encode length = UInt8.ofNat (length % 128 + 128) :: encode (length / 128) := by
  have hdiv : 0 < length / 128 := by omega
  obtain ⟨n, rfl⟩ : ∃ n, length = n + 1 := ⟨length - 1, by omega⟩
  unfold encode
  rw [encodeLoop, if_pos hdiv, encodeLoop_fuel (by omega) le_rfl]

def decode {γ : Type} (getchar : γ → Option UInt8 × γ) :
    Nat → Nat → Nat → Nat → γ → (Nat × Nat) × γ
  | 0, len, value, _, g => ((len + 1, value), g)
  | tries + 1, len, value, multiplier, g =>
      match getchar g with
      | (none, g') => ((len + 1, value), g')
      | (some c, g') =>
          if 128 ≤ c.toNat then
            decode getchar tries (len + 1) (value + c.toNat % 128 * multiplier)
              (multiplier * 128) g'
          else ((len + 1, value + c.toNat % 128 * multiplier), g')

inductive Feeds {γ : Type} (getchar : γ → Option UInt8 × γ) : List UInt8 → γ → γ → Prop
  | nil (g : γ) : Feeds getchar [] g g
  | cons {b : UInt8} {bs : List UInt8} {g g' g'' : γ} :
      getchar g = (some b, g') → Feeds getchar bs g' g'' → Feeds getchar (b :: bs) g g''

theorem decode_bound {γ : Type} (getchar : γ → Option UInt8 × γ) (tries len value multiplier : Nat)
    (g : γ) : (decode getchar tries len value multiplier g).1.2 + multiplier ≤
      value + multiplier * 128 ^ tries := by
  induction tries generalizing len value multiplier g with
  | zero => simp [decode]
  | succ tries ih =>
    have hpow : 1 ≤ 128 ^ tries := Nat.one_le_pow _ _ (by decide)
    have hgrow : multiplier * 128 ≤ multiplier * 128 ^ (tries + 1) := by
      rw [Nat.pow_succ]
      exact Nat.mul_le_mul_left _ (by omega)
    rcases hget : getchar g with ⟨_ | c, g'⟩
    · simp only [decode, hget]
      omega
    · have hdigit : c.toNat % 128 * multiplier + multiplier ≤ multiplier * 128 := by
        have hd : c.toNat % 128 + 1 ≤ 128 := by omega
        nlinarith
      simp only [decode, hget]
      split
      · have h := ih (len + 1) (value + c.toNat % 128 * multiplier) (multiplier * 128) g'
        rw [Nat.mul_assoc, Nat.mul_comm 128, ← Nat.pow_succ] at h
        change _ ≤ _ + multiplier * 128 ^ (tries + 1) at h
        omega
      · simp only
        omega

def value : List UInt8 → Nat
  | [] => 0
  | b :: bs => b.toNat % 128 + value bs * 128

def Terminated : List UInt8 → Prop
  | [] => False
  | [b] => b.toNat < 128
  | b :: bs => 128 ≤ b.toNat ∧ Terminated bs

def completes {γ : Type} (getchar : γ → Option UInt8 × γ) : Nat → γ → Bool
  | 0, _ => false
  | tries + 1, g =>
      match getchar g with
      | (none, _) => false
      | (some c, g') => if 128 ≤ c.toNat then completes getchar tries g' else true

theorem terminated_cons {b : UInt8} {bs : List UInt8} (h : Terminated (b :: bs)) :
    b.toNat < 128 ∧ bs = [] ∨ 128 ≤ b.toNat ∧ Terminated bs := by
  cases bs with
  | nil => exact .inl ⟨h, rfl⟩
  | cons b' bs => exact .inr h

theorem decode_terminated {γ : Type} {getchar : γ → Option UInt8 × γ} {bs : List UInt8}
    (ht : Terminated bs) {tries : Nat} (hlen : bs.length ≤ tries) (len start multiplier : Nat)
    {g g' : γ} (hf : Feeds getchar bs g g') :
    decode getchar tries len start multiplier g =
      ((len + bs.length, start + value bs * multiplier), g') := by
  induction hf generalizing tries len start multiplier with
  | nil => exact ht.elim
  | @cons b bs g g₁ g' hget _ ih =>
    obtain ⟨tries, rfl⟩ : ∃ k, tries = k + 1 := ⟨tries - 1, by simp at hlen; omega⟩
    rcases terminated_cons ht with ⟨hb, rfl⟩ | ⟨hb, hbs⟩
    · rename_i hrest
      cases hrest
      simp only [decode, hget, if_neg (Nat.not_le.mpr hb), value]
      simp
    · simp only [decode, hget, if_pos hb]
      rw [ih hbs (by simpa using hlen)]
      simp only [value, List.length_cons, Prod.mk.injEq, and_true]
      exact ⟨by omega, by ring⟩

theorem decode_length {γ : Type} {getchar : γ → Option UInt8 × γ} {bs : List UInt8}
    (ht : Terminated bs) {tries : Nat} (hlen : bs.length ≤ tries + 1) (len start multiplier : Nat)
    {g g' : γ} (hf : Feeds getchar bs g g') :
    (decode getchar tries len start multiplier g).1.1 = len + bs.length := by
  induction hf generalizing tries len start multiplier with
  | nil => exact ht.elim
  | @cons b bs g g₁ g' hget _ ih =>
    rw [List.length_cons] at hlen
    cases tries with
    | zero =>
      obtain rfl : bs = [] := List.length_eq_zero_iff.mp (by omega)
      rfl
    | succ tries =>
      rcases terminated_cons ht with ⟨hb, rfl⟩ | ⟨hb, hbs⟩
      · simp only [decode, hget, if_neg (Nat.not_le.mpr hb), List.length_cons, List.length_nil]
      · simp only [decode, hget, if_pos hb]
        rw [ih hbs (by omega), List.length_cons]
        omega

theorem digit_toNat {n : Nat} (h : n < 256) : (UInt8.ofNat n).toNat = n := by
  rw [UInt8.toNat_ofNat']
  omega

theorem value_encode (n : Nat) : value (encode n) = n := by
  induction n using Nat.strong_induction_on with
  | _ n ih =>
    by_cases hsmall : n < 128
    · rw [encode_small hsmall, value, value, digit_toNat (by omega)]
      omega
    · rw [encode_step (by omega), value, digit_toNat (by omega), ih (n / 128) (by omega)]
      omega

theorem encode_terminated (n : Nat) : Terminated (encode n) := by
  induction n using Nat.strong_induction_on with
  | _ n ih =>
    by_cases hsmall : n < 128
    · rw [encode_small hsmall, Terminated, digit_toNat (by omega)]
      exact hsmall
    · rw [encode_step (by omega)]
      have hrest := ih (n / 128) (by omega)
      have hdigit : 128 ≤ (UInt8.ofNat (n % 128 + 128)).toNat := by
        rw [digit_toNat (by omega)]
        omega
      cases hbytes : encode (n / 128) with
      | nil => exact absurd hrest (by simp [hbytes, Terminated])
      | cons b bs => exact ⟨hdigit, hbytes ▸ hrest⟩

theorem encode_length_le {tries n : Nat} (htries : 0 < tries) (h : n < 128 ^ tries) :
    (encode n).length ≤ tries := by
  induction tries generalizing n with
  | zero => omega
  | succ tries ih =>
    by_cases hsmall : n < 128
    · rw [encode_small hsmall, List.length_singleton]
      omega
    · have hpow : n / 128 < 128 ^ tries := by
        rw [Nat.div_lt_iff_lt_mul (by decide)]
        simpa [Nat.pow_succ] using h
      have hmore : 0 < tries := by
        rcases Nat.eq_zero_or_pos tries with rfl | h
        · simp at hpow
          omega
        · exact h
      rw [encode_step (by omega), List.length_cons]
      exact Nat.succ_le_succ (ih hmore hpow)

theorem lt_encode_length {digits n : Nat} (h : 128 ^ digits ≤ n) : digits < (encode n).length := by
  induction digits generalizing n with
  | zero =>
    rcases Nat.lt_or_ge n 128 with hsmall | hlarge
    · rw [encode_small hsmall]
      exact Nat.one_pos
    · rw [encode_step hlarge]
      exact Nat.succ_pos _
  | succ digits ih =>
    have hone : 1 ≤ 128 ^ digits := Nat.one_le_two_pow.trans (Nat.pow_le_pow_left (by decide) digits)
    rw [Nat.pow_succ] at h
    have hdiv : 128 ^ digits ≤ n / 128 := (Nat.le_div_iff_mul_le (by decide)).mpr h
    rw [encode_step (by omega), List.length_cons]
    exact Nat.succ_lt_succ (ih hdiv)

theorem decode_feeds {γ : Type} {getchar : γ → Option UInt8 × γ} {tries n : Nat}
    (len start multiplier : Nat) {g g' : γ} (htries : 0 < tries) (hn : n < 128 ^ tries)
    (hf : Feeds getchar (encode n) g g') :
    decode getchar tries len start multiplier g =
      ((len + (encode n).length, start + n * multiplier), g') := by
  rw [decode_terminated (encode_terminated n) (encode_length_le htries hn) len start multiplier hf,
    value_encode]

theorem encode_shortest {bs : List UInt8} (h : Terminated bs) :
    (encode (value bs)).length ≤ bs.length := by
  induction bs with
  | nil => exact h.elim
  | cons b bs ih =>
    rcases terminated_cons h with ⟨hb, rfl⟩ | ⟨hb, hbs⟩
    · have hsmall : value [b] < 128 := by
        rw [value, value]
        omega
      rw [encode_small hsmall]
      exact Nat.le_refl 1
    · have hdiv : value (b :: bs) / 128 = value bs := by
        rw [value]
        omega
      rcases Nat.lt_or_ge (value (b :: bs)) 128 with hsmall | hlarge
      · rw [encode_small hsmall, List.length_singleton, List.length_cons]
        exact Nat.le_add_left 1 _
      · rw [encode_step hlarge, hdiv, List.length_cons, List.length_cons]
        exact Nat.succ_le_succ (ih hbs)

theorem terminated_iff {bs : List UInt8} : Terminated bs ↔
    ∃ front last, bs = front ++ [last] ∧ (∀ b ∈ front, 128 ≤ b.toNat) ∧ last.toNat < 128 := by
  induction bs with
  | nil => simp [Terminated]
  | cons b bs ih =>
    constructor
    · intro h
      rcases terminated_cons h with ⟨hb, rfl⟩ | ⟨hb, hbs⟩
      · exact ⟨[], b, rfl, by simp, hb⟩
      · obtain ⟨front, last, rfl, hfront, hlast⟩ := ih.mp hbs
        exact ⟨b :: front, last, rfl, List.forall_mem_cons.mpr ⟨hb, hfront⟩, hlast⟩
    · rintro ⟨front, last, hbytes, hfront, hlast⟩
      cases front with
      | nil =>
        obtain ⟨rfl, rfl⟩ := List.cons.inj hbytes
        exact hlast
      | cons b' front =>
        obtain ⟨rfl, rfl⟩ := List.cons.inj hbytes
        obtain ⟨hb, hrest⟩ := List.forall_mem_cons.mp hfront
        have hbs := ih.mpr ⟨front, last, rfl, hrest, hlast⟩
        cases front with
        | nil => exact ⟨hb, hbs⟩
        | cons b' front => exact ⟨hb, hbs⟩

theorem feeds_append {γ : Type} {getchar : γ → Option UInt8 × γ} {bs cs : List UInt8} {g g'' : γ} :
    Feeds getchar (bs ++ cs) g g'' ↔ ∃ g', Feeds getchar bs g g' ∧ Feeds getchar cs g' g'' := by
  induction bs generalizing g with
  | nil =>
    constructor
    · intro h
      exact ⟨g, .nil g, h⟩
    · rintro ⟨g', hnil, h⟩
      cases hnil
      exact h
  | cons b bs ih =>
    constructor
    · intro h
      cases h with
      | cons hget hrest =>
        obtain ⟨g', hbs, hcs⟩ := ih.mp hrest
        exact ⟨g', .cons hget hbs, hcs⟩
    · rintro ⟨g', hbs, hcs⟩
      cases hbs with
      | cons hget hrest => exact .cons hget (ih.mpr ⟨g', hrest, hcs⟩)

theorem completes_iff {γ : Type} {getchar : γ → Option UInt8 × γ} {tries : Nat} {g : γ} :
    completes getchar tries g = true ↔
      ∃ bs g', Terminated bs ∧ bs.length ≤ tries ∧ Feeds getchar bs g g' := by
  induction tries generalizing g with
  | zero =>
    refine ⟨fun h => by simp [completes] at h, ?_⟩
    rintro ⟨bs, g', ht, hlen, -⟩
    obtain rfl : bs = [] := List.length_eq_zero_iff.mp (Nat.le_zero.mp hlen)
    exact ht.elim
  | succ tries ih =>
    rcases hget : getchar g with ⟨_ | c, g₁⟩
    · refine ⟨fun h => by simp [completes, hget] at h, ?_⟩
      rintro ⟨bs, g', ht, -, hf⟩
      cases hf with
      | nil => exact ht.elim
      | cons hget' _ => simp [hget] at hget'
    · constructor
      · intro h
        simp only [completes, hget] at h
        split at h
        · rename_i hc
          obtain ⟨bs, g', ht, hlen, hf⟩ := ih.mp h
          refine ⟨c :: bs, g', ?_, by simpa using hlen, .cons hget hf⟩
          cases bs with
          | nil => exact ht.elim
          | cons b bs => exact ⟨hc, ht⟩
        · rename_i hc
          exact ⟨[c], g₁, Nat.not_le.mp hc, by simp, .cons hget (.nil g₁)⟩
      · rintro ⟨bs, g', ht, hlen, hf⟩
        cases hf with
        | nil => exact ht.elim
        | @cons b bs _ g₂ _ hget' hrest =>
          rw [hget] at hget'
          cases hget'
          simp only [completes, hget]
          rcases terminated_cons ht with ⟨hb, -⟩ | ⟨hb, hbs⟩
          · rw [if_neg (Nat.not_le.mpr hb)]
          · rw [if_pos hb]
            exact ih.mpr ⟨bs, g', hbs, by simpa using hlen, hrest⟩

end Base128
