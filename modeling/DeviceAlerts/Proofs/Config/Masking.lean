import DeviceAlerts.Config.Uri
import Mathlib.Data.List.Infix

/-! What is left of a text when its passwords are masked. A password ends at the first at sign, so
the text of an address fixes its credentials, and of the password nothing stays. Masking again finds
the same addresses: the parts that were put in are credentials themselves, and the text before one
of them cannot run into it, because the slashes of a scheme stand in neither a user's name nor a
password. -/

namespace DeviceAlerts.Config

open List

/-! ### Lists cut at a character -/

theorem takeWhile_append_stop {α : Type} {p : α → Bool} {l rest : List α} {a : α}
    (all : ∀ x ∈ l, p x = true) (stop : p a = false) : (l ++ a :: rest).takeWhile p = l := by
  rw [takeWhile_append_of_pos all, takeWhile_cons_of_neg (by simp [stop]), append_nil]

theorem dropWhile_append_stop {α : Type} {p : α → Bool} {l rest : List α} {a : α}
    (all : ∀ x ∈ l, p x = true) (stop : p a = false) :
    (l ++ a :: rest).dropWhile p = a :: rest := by
  rw [dropWhile_append_of_pos all, dropWhile_cons_of_neg (by simp [stop])]

/-- Texts that agree up to the first of a character. -/
theorem eq_of_append_cons {α : Type} [DecidableEq α] {l m rest more : List α} {a : α} (hl : a ∉ l)
    (hm : a ∉ m) (h : l ++ a :: rest = m ++ a :: more) : l = m := by
  have differs {k : List α} (hk : a ∉ k) : ∀ x ∈ k, decide (x ≠ a) = true :=
    fun x hx => decide_eq_true fun same => hk (same ▸ hx)
  have stop : decide (a ≠ a) = false := by simp
  calc l = (l ++ a :: rest).takeWhile (· ≠ a) := (takeWhile_append_stop (differs hl) stop).symm
    _ = (m ++ a :: more).takeWhile (· ≠ a) := by rw [h]
    _ = m := takeWhile_append_stop (differs hm) stop

theorem eq_of_append_cons_last {α : Type} [DecidableEq α] {l m rest more : List α} {a : α}
    (hrest : a ∉ rest) (hmore : a ∉ more) (h : l ++ a :: rest = m ++ a :: more) : l = m := by
  have hreverse : rest.reverse ++ a :: l.reverse = more.reverse ++ a :: m.reverse := by
    simpa using congrArg reverse h
  have same := eq_of_append_cons (by simpa using hrest) (by simpa using hmore) hreverse
  rw [reverse_inj.mp same] at h
  exact append_cancel_right h

/-! ### Schemes -/

theorem eq_of_prefix_schemes : ∀ a ∈ schemes, ∀ b ∈ schemes, a <+: b → a = b := by decide

theorem eq_of_suffix_schemes : ∀ a ∈ schemes, ∀ b ∈ schemes, a <:+ b → a = b := by decide

theorem at_notMem_scheme : ∀ a ∈ schemes, '@' ∉ a := by decide

theorem exists_scheme_eq_append_slash : ∀ a ∈ schemes, ∃ start, a = start ++ ['/'] := by
  intro a ha
  rcases mem_cons.mp ha with rfl | ha
  · exact ⟨"mongodb:/".toList, rfl⟩
  · obtain rfl := mem_singleton.mp ha
    exact ⟨"mongodb+srv:/".toList, rfl⟩

theorem of_scheme? {cs s : List Char} (h : scheme? cs = some s) : s ∈ schemes ∧ s <+: cs := by
  unfold scheme? at h
  have starts : s.isPrefixOf cs = true := by simpa using find?_some h
  exact ⟨mem_of_find?_eq_some h, isPrefixOf_iff_prefix.mp starts⟩

theorem scheme?_eq_some_iff {cs s : List Char} : scheme? cs = some s ↔ s ∈ schemes ∧ s <+: cs := by
  refine ⟨of_scheme?, fun ⟨known, starts⟩ => ?_⟩
  cases h : scheme? cs with
  | none =>
    have found : s.isPrefixOf cs = true := isPrefixOf_iff_prefix.mpr starts
    exact absurd found (find?_eq_none.mp h s known)
  | some t =>
    obtain ⟨other, begins⟩ := of_scheme? h
    rcases prefix_or_prefix_of_prefix begins starts with shorter | longer
    · rw [eq_of_prefix_schemes t other s known shorter]
    · rw [eq_of_prefix_schemes s known t other longer]

/-! ### Credentials -/

namespace Credentials

/-- The text of credentials. -/
def shown (c : Credentials) : List Char := c.scheme ++ c.user ++ ':' :: c.password ++ ['@']

structure Fits (c : Credentials) : Prop where
  scheme : c.scheme ∈ schemes
  named : c.user ≠ []
  user : ∀ x ∈ c.user, isUserCharacter x = true
  given : c.password ≠ []
  password : ∀ x ∈ c.password, isPasswordCharacter x = true

/-- Credentials of which the password is masked already. -/
def veiled (c : Credentials) : Credentials := { c with password := ['*', '*', '*'] }

variable {c : Credentials}

theorem length_shown (c : Credentials) : c.shown.length = c.length := by
  simp only [shown, length, length_append, length_cons, length_nil]
  omega

theorem masked_eq (c : Credentials) : c.masked = c.veiled.shown := by
  simp [masked, shown, veiled]

theorem Fits.veiled (h : c.Fits) : c.veiled.Fits :=
  { h with
    given := nofun
    password := all_eq_true.mp (show ['*', '*', '*'].all isPasswordCharacter = true from rfl) }

/-- What stands between the scheme and the at sign has neither a slash nor an at sign. -/
theorem Fits.between (h : c.Fits) : ∀ x ∈ c.user ++ ':' :: c.password, x ≠ '/' ∧ x ≠ '@' := by
  intro x hx
  rcases mem_append.mp hx with hx | hx
  · have := h.user x hx
    simp only [isUserCharacter] at this
    grind
  · rcases mem_cons.mp hx with rfl | hx
    · decide
    · have := h.password x hx
      simp only [isPasswordCharacter] at this
      grind

/-- The at sign at the end of credentials is their only one. -/
theorem Fits.at_notMem (h : c.Fits) : '@' ∉ c.scheme ++ (c.user ++ ':' :: c.password) := by
  intro hat
  rcases mem_append.mp hat with hat | hat
  · exact at_notMem_scheme _ h.scheme hat
  · exact (h.between _ hat).2 rfl

theorem shown_eq (c : Credentials) :
    c.shown = c.scheme ++ (c.user ++ ':' :: c.password) ++ ['@'] := by
  simp [shown]

theorem exists_shown_eq_cons (c : Credentials) : ∃ first tail, c.shown = first :: tail :=
  exists_cons_of_ne_nil (by simp [shown])

end Credentials

theorem credentials?_append {c : Credentials} (h : c.Fits) (rest : List Char) :
    credentials? (c.shown ++ rest) = some c := by
  have htext : c.shown ++ rest = c.scheme ++ (c.user ++ ':' :: (c.password ++ '@' :: rest)) := by
    simp [Credentials.shown]
  have hscheme : scheme? (c.scheme ++ (c.user ++ ':' :: (c.password ++ '@' :: rest))) =
      some c.scheme := scheme?_eq_some_iff.mpr ⟨h.scheme, prefix_append _ _⟩
  have colon : isUserCharacter ':' = false := by decide
  have sign : isPasswordCharacter '@' = false := by decide
  rw [htext, credentials?, hscheme]
  simp only [Option.bind_eq_bind, Option.bind_some, drop_left,
    takeWhile_append_stop h.user colon, dropWhile_append_stop h.user colon,
    takeWhile_append_stop h.password sign, dropWhile_append_stop h.password sign]
  simp [h.named, h.given]

theorem credentials?_eq_some_iff {cs : List Char} {c : Credentials} :
    credentials? cs = some c ↔ c.Fits ∧ c.shown <+: cs := by
  constructor
  · intro h
    unfold credentials? at h
    cases hscheme : scheme? cs with
    | none => simp [hscheme] at h
    | some scheme =>
      obtain ⟨known, rest, rfl⟩ := scheme?_eq_some_iff.mp hscheme
      simp only [hscheme, Option.bind_eq_bind, Option.bind_some, drop_left] at h
      split at h
      · next more hmore =>
        simp only [Option.ite_none_left_eq_some] at h
        obtain ⟨whole, hc⟩ := h
        obtain rfl := Option.some.inj hc
        rw [Bool.not_eq_true, Bool.or_eq_false_iff, Bool.or_eq_false_iff] at whole
        obtain ⟨⟨named, given⟩, closed⟩ := whole
        obtain ⟨tail, htail⟩ := head?_eq_some_iff.mp (by simpa using closed)
        refine ⟨⟨known, by simpa using named, all_eq_true.mp all_takeWhile,
          by simpa using given, all_eq_true.mp all_takeWhile⟩, tail, ?_⟩
        have hrest : rest = rest.takeWhile isUserCharacter ++ ':' :: more := by
          rw [← hmore, takeWhile_append_dropWhile]
        have hpassword : more = more.takeWhile isPasswordCharacter ++ '@' :: tail := by
          rw [← htail, takeWhile_append_dropWhile]
        conv_rhs => rw [hrest, hpassword]
        simp [Credentials.shown]
      · cases h
  · rintro ⟨fits, rest, rfl⟩
    exact credentials?_append fits rest

/-- The last slash is that of the scheme, so that nothing can stand before the scheme. -/
theorem Credentials.Fits.nothing_before {c d : Credentials} (hc : c.Fits) (hd : d.Fits)
    {before : List Char} (h : before ++ (c.scheme ++ (c.user ++ ':' :: c.password)) =
      d.scheme ++ (d.user ++ ':' :: d.password)) : before = [] := by
  obtain ⟨start, hstart⟩ := exists_scheme_eq_append_slash _ hc.scheme
  obtain ⟨begin, hbegin⟩ := exists_scheme_eq_append_slash _ hd.scheme
  have hc_slash : '/' ∉ c.user ++ ':' :: c.password := fun h => (hc.between _ h).1 rfl
  have hd_slash : '/' ∉ d.user ++ ':' :: d.password := fun h => (hd.between _ h).1 rfl
  have hslash : before ++ start = begin := by
    refine eq_of_append_cons_last hc_slash hd_slash ?_
    simpa [hstart, hbegin] using h
  have hscheme : before ++ c.scheme = d.scheme := by
    rw [hstart, hbegin, ← hslash, append_assoc]
  have same := eq_of_suffix_schemes _ hc.scheme _ hd.scheme ⟨before, hscheme⟩
  rw [same] at hscheme
  exact append_left_eq_self.mp hscheme

/-- Credentials do not begin inside of other credentials. -/
theorem Credentials.Fits.not_inside {c d : Credentials} (hc : c.Fits) (hd : d.Fits)
    {before w : List Char} (split : before ++ w = d.shown) (inside : before ≠ [])
    (nonempty : w ≠ []) (out : List Char) : ¬ w <+: c.shown ++ out := by
  rintro ⟨more, starts⟩
  obtain ⟨v, last, rfl⟩ := (eq_nil_or_concat w).resolve_left nonempty
  rw [concat_eq_append] at split starts
  rw [d.shown_eq, ← append_assoc] at split
  obtain ⟨hbody, hlast⟩ := append_inj' split rfl
  obtain rfl := (cons.inj hlast).1
  have unsigned : '@' ∉ v := fun hat => hd.at_notMem (hbody ▸ mem_append_right before hat)
  -- both end at their first at sign
  rw [c.shown_eq, append_assoc, append_assoc] at starts
  obtain rfl := eq_of_append_cons unsigned hc.at_notMem starts
  exact inside (hc.nothing_before hd hbody)

/-! ### Masked texts -/

theorem maskFrom_eq_drop (skip : Nat) (cs : List Char) :
    maskFrom skip cs = maskFrom 0 (cs.drop skip) := by
  induction cs generalizing skip with
  | nil => cases skip <;> rfl
  | cons c rest ih =>
    cases skip with
    | zero => rfl
    | succ n => exact ih n

theorem maskFrom_shown {c : Credentials} (h : c.Fits) (rest : List Char) :
    maskFrom 0 (c.shown ++ rest) = c.masked ++ maskFrom 0 rest := by
  have found := credentials?_append h rest
  obtain ⟨first, tail, htext⟩ := c.exists_shown_eq_cons
  have hlength : c.length - 1 = tail.length := by
    rw [← c.length_shown, htext]
    rfl
  rw [htext, cons_append] at found ⊢
  simp only [maskFrom, found, hlength, maskFrom_eq_drop tail.length, drop_left]

/-- What stays of a text and what takes its place, piece by piece. -/
inductive Masks : List Char → List Char → Prop
  | nil : Masks [] []
  | keep {c : Char} {cs out : List Char} (plain : credentials? (c :: cs) = none)
    (later : Masks cs out) : Masks (c :: cs) (c :: out)
  | mask {c : Credentials} {rest out : List Char} (fits : c.Fits) (later : Masks rest out) :
    Masks (c.shown ++ rest) (c.masked ++ out)

theorem masks_maskFrom (cs : List Char) : Masks cs (maskFrom 0 cs) := by
  induction h : cs.length using Nat.strong_induction_on generalizing cs with
  | _ n ih =>
    cases cs with
    | nil => exact .nil
    | cons c rest =>
      cases hfound : credentials? (c :: rest) with
      | none =>
        simp only [maskFrom, hfound]
        exact .keep hfound (ih _ (by simp [← h]) rest rfl)
      | some found =>
        obtain ⟨fits, more, htext⟩ := credentials?_eq_some_iff.mp hfound
        rw [← htext, maskFrom_shown fits]
        refine .mask fits (ih _ ?_ more rfl)
        rw [← h, ← htext, length_append, found.length_shown, Credentials.length]
        omega

theorem Masks.kept {cs out : List Char} (h : Masks cs out) {d : Credentials}
    (hd : d.Fits) {before w : List Char} (split : before ++ w = d.shown) (inside : before ≠ [])
    (starts : w <+: out) : w <+: cs := by
  induction h generalizing before w with
  | nil => exact starts
  | @keep c cs out plain later ih =>
    cases w with
    | nil => exact nil_prefix
    | cons a w =>
      obtain ⟨same, next⟩ := cons_prefix_cons.mp starts
      have stillSplit : before ++ [a] ++ w = d.shown := by simpa using split
      have kept := ih stillSplit (by simp) next
      exact cons_prefix_cons.mpr ⟨same, kept⟩
  | @mask c rest out fits later ih =>
    cases w with
    | nil => exact nil_prefix
    | cons a w =>
      rw [c.masked_eq] at starts
      exact absurd starts (fits.veiled.not_inside hd split inside (cons_ne_nil a w) out)

/-- In a masked text there is nothing left to mask. -/
theorem Masks.maskFrom_eq {cs out : List Char} (h : Masks cs out) : maskFrom 0 out = out := by
  induction h with
  | nil => rfl
  | @keep c cs out plain later ih =>
    have unmatched : credentials? (c :: out) = none := by
      rw [Option.eq_none_iff_forall_ne_some]
      intro d hd
      obtain ⟨fits, starts⟩ := credentials?_eq_some_iff.mp hd
      obtain ⟨first, tail, htext⟩ := d.exists_shown_eq_cons
      rw [htext] at starts
      obtain ⟨same, next⟩ := cons_prefix_cons.mp starts
      have split : [first] ++ tail = first :: tail := rfl
      have kept : tail <+: cs :=
        later.kept fits (split.trans htext.symm) (by simp) next
      have begins : d.shown <+: c :: cs := htext ▸ cons_prefix_cons.mpr ⟨same, kept⟩
      rw [credentials?_eq_some_iff.mpr ⟨fits, begins⟩] at plain
      cases plain
    simp only [maskFrom, unmatched, ih]
  | @mask c rest out fits later ih =>
    have same : c.veiled.masked = c.masked := rfl
    rw [c.masked_eq, maskFrom_shown fits.veiled, ih, same, c.masked_eq]

/-! ### Addresses -/

/-- A user's name as it can stand in an address. -/
structure IsUser (s : String) : Prop where
  nonempty : s ≠ ""
  plain : ∀ c ∈ s.toList, c ≠ ':' ∧ c ≠ '@' ∧ c ≠ '/'

/-- A password as it can stand in an address; a colon is no end of it. -/
structure IsPassword (s : String) : Prop where
  nonempty : s ≠ ""
  plain : ∀ c ∈ s.toList, c ≠ '@' ∧ c ≠ '/'

/-- A text that begins with an address. -/
def address (scheme user password remainder : String) : String :=
  scheme ++ user ++ ":" ++ password ++ "@" ++ remainder

theorem maskPasswords_address {scheme user password : String}
    (known : scheme ∈ ["mongodb://", "mongodb+srv://"]) (hu : IsUser user)
    (hp : IsPassword password) (remainder : String) :
    maskPasswords (address scheme user password remainder) =
      scheme ++ user ++ ":***@" ++ maskPasswords remainder := by
  have fits : Credentials.Fits ⟨scheme.toList, user.toList, password.toList⟩ := by
    refine ⟨?_, by simpa using hu.nonempty, fun c hc => ?_, by simpa using hp.nonempty,
      fun c hc => ?_⟩
    · exact mem_map_of_mem (f := String.toList) known
    · simpa [isUserCharacter, and_assoc] using hu.plain c hc
    · simpa [isPasswordCharacter] using hp.plain c hc
  have htext : (address scheme user password remainder).toList =
      Credentials.shown ⟨scheme.toList, user.toList, password.toList⟩ ++ remainder.toList := by
    simp [address, Credentials.shown]
  rw [maskPasswords, htext, maskFrom_shown fits]
  simp [maskPasswords, Credentials.masked, ← String.toList_inj]

/-- Nothing of a password is left in the masked text, whatever follows the address: two passwords
lead to the same text, in which the user is followed by asterisks. Masking a masked text changes
nothing. -/
theorem maskPasswords_conceals :
    (∀ scheme ∈ ["mongodb://", "mongodb+srv://"], ∀ user password other remainder : String,
      IsUser user → IsPassword password → IsPassword other →
        maskPasswords (address scheme user password remainder) =
          maskPasswords (address scheme user other remainder) ∧
        maskPasswords (address scheme user password remainder) =
          scheme ++ user ++ ":***@" ++ maskPasswords remainder) ∧
    ∀ s : String, maskPasswords (maskPasswords s) = maskPasswords s := by
  refine ⟨fun scheme known user password other remainder hu hp ho => ⟨?_, ?_⟩, fun s => ?_⟩
  · rw [maskPasswords_address known hu hp, maskPasswords_address known hu ho]
  · exact maskPasswords_address known hu hp remainder
  · rw [maskPasswords, maskPasswords, String.toList_ofList, (masks_maskFrom s.toList).maskFrom_eq]

/-- A password with a colon in it, before a second address. -/
theorem maskPasswords_conceals_twoAddresses :
    maskPasswords (address "mongodb+srv://" "ops" "s3:cret" "db/?from=mongodb://a:b@c") =
      maskPasswords (address "mongodb+srv://" "ops" "*" "db/?from=mongodb://a:b@c") ∧
    maskPasswords (address "mongodb+srv://" "ops" "s3:cret" "db/?from=mongodb://a:b@c") =
      "mongodb+srv://ops:***@db/?from=mongodb://a:***@c" := by
  obtain ⟨same, shape⟩ := maskPasswords_conceals.1 "mongodb+srv://" (by decide) "ops" "s3:cret" "*"
    "db/?from=mongodb://a:b@c" ⟨by decide, by simp⟩ ⟨by decide, by simp⟩ ⟨by decide, by simp⟩
  refine ⟨same, shape.trans ?_⟩
  decide +kernel

end DeviceAlerts.Config
