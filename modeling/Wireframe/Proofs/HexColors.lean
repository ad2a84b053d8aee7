import Wireframe.Color
import Wireframe.DesignSystem.Cupertino
import Wireframe.DesignSystem.Material
import Wireframe.Proofs.DottedPaths
import Mathlib.Tactic.Common
import Mathlib.Tactic.IntervalCases

/-!
# Hexadecimal colors

The texts that are read as colors, by what each of their characters stands for. Three, six and eight
hexadecimal digits are; of a channel with two characters the first may be a plus sign instead.
-/

namespace Wireframe

open Text

/-! ### Digits -/

namespace Text

variable {c : Char} {n : Nat}

/-- A hexadecimal digit of either case with its value. -/
structure HexDigit (c : Char) (n : Nat) : Prop where
  lt : n < 16
  eq : c = Nat.digitChar n ∨ c = (Nat.digitChar n).toUpper

lemma hexDigit?_digitChar (h : n < 16) : hexDigit? (Nat.digitChar n) = some n
    ∧ hexDigit? (Nat.digitChar n).toUpper = some n := by
  interval_cases n <;> decide

/-- A character between two others is found at its distance from the first. -/
lemma eq_ofNat_of_le {first last : Char} (h : first ≤ c ∧ c ≤ last) :
    c = Char.ofNat (first.toNat + (c.toNat - first.toNat))
      ∧ c.toNat - first.toNat ≤ last.toNat - first.toNat := by
  obtain ⟨hfirst, hlast⟩ := h
  have hfirst' : first.toNat ≤ c.toNat := hfirst
  have hlast' : c.toNat ≤ last.toNat := hlast
  rw [Nat.add_sub_cancel' hfirst', Char.ofNat_toNat]
  exact ⟨rfl, Nat.sub_le_sub_right hlast' _⟩

lemma hexDigit?_eq_some_iff : hexDigit? c = some n ↔ HexDigit c n := by
  constructor
  · intro h
    have hdecimal : ∀ n ≤ 9, Char.ofNat (48 + n) = Nat.digitChar n := by decide
    have hlower : ∀ n ≤ 5, Char.ofNat (97 + n) = Nat.digitChar (n + 10) := by decide
    have hupper : ∀ n ≤ 5, Char.ofNat (65 + n) = (Nat.digitChar (n + 10)).toUpper := by decide
    unfold hexDigit? at h
    split at h
    · next hc =>
      cases h
      obtain ⟨heq, hle⟩ := eq_ofNat_of_le hc
      exact ⟨Nat.lt_of_le_of_lt hle (by decide), .inl (heq.trans (hdecimal _ hle))⟩
    split at h
    · next hc =>
      cases h
      obtain ⟨heq, hle⟩ := eq_ofNat_of_le hc
      exact ⟨Nat.add_lt_add_right (Nat.lt_of_le_of_lt hle (by decide)) 10,
        .inl (heq.trans (hlower _ hle))⟩
    split at h
    · next hc =>
      cases h
      obtain ⟨heq, hle⟩ := eq_ofNat_of_le hc
      exact ⟨Nat.add_lt_add_right (Nat.lt_of_le_of_lt hle (by decide)) 10,
        .inr (heq.trans (hupper _ hle))⟩
    · cases h
  · rintro ⟨hlt, rfl | rfl⟩
    · exact (hexDigit?_digitChar hlt).1
    · exact (hexDigit?_digitChar hlt).2

end Text

/-! ### Texts of colors -/

namespace Color

variable {cs body : List Char} {c d : Char} {n : Nat} {channel : UInt8} {color : Color} {text : String}

/-- What is left of a text without the blanks around it and the `#` it begins with then. -/
structure IsBody (cs body : List Char) : Prop where
  hashes : ∃ count, Trims cs (List.replicate count '#' ++ body)
  first : body.head? ≠ some '#'

/-- The value of a channel with two characters. -/
inductive Channel : Char → Char → Nat → Prop
  | digits {c d : Char} {high low : Nat} (hhigh : HexDigit c high) (hlow : HexDigit d low) :
      Channel c d (16 * high + low)
  | signed {d : Char} {low : Nat} (hlow : HexDigit d low) : Channel '+' d low

/-- The color that characters stand for. Each digit of three stands for a channel, as if it were
there twice; six characters are three channels, and eight have the opacity for the fourth. -/
inductive Spells : List Char → Color → Prop
  | short {c d e : Char} {r g b : Nat} (hred : HexDigit c r) (hgreen : HexDigit d g)
      (hblue : HexDigit e b) :
      Spells [c, d, e] (opaqueColor (17 * r).toUInt8 (17 * g).toUInt8 (17 * b).toUInt8)
  | long {c c' d d' e e' : Char} {r g b : Nat} (hred : Channel c c' r) (hgreen : Channel d d' g)
      (hblue : Channel e e' b) :
      Spells [c, c', d, d', e, e'] (opaqueColor r.toUInt8 g.toUInt8 b.toUInt8)
  | clear {c c' d d' e e' f f' : Char} {r g b a : Nat} (hred : Channel c c' r)
      (hgreen : Channel d d' g) (hblue : Channel e e' b) (halpha : Channel f f' a) :
      Spells [c, c', d, d', e, e', f, f'] ⟨r.toUInt8, g.toUInt8, b.toUInt8, alphaOf a.toUInt8⟩

/-- Whether characters are three, six or eight hexadecimal digits. -/
structure IsHex (body : List Char) : Prop where
  length : body.length = 3 ∨ body.length = 6 ∨ body.length = 8
  digits : ∀ c ∈ body, ∃ n, HexDigit c n

lemma exists_isBody (cs : List Char) : ∃ body, IsBody cs body := by
  have hcs := List.takeWhile_append_dropWhile (p := (· = '#')) (l := trimChars cs)
  refine ⟨(trimChars cs).dropWhile (· = '#'), ⟨((trimChars cs).takeWhile (· = '#')).length, ?_⟩, ?_⟩
  · have hhashes : (trimChars cs).takeWhile (· = '#')
        = List.replicate ((trimChars cs).takeWhile (· = '#')).length '#' := by
      refine List.eq_replicate_iff.mpr ⟨rfl, fun c hc => ?_⟩
      simpa using List.mem_takeWhile_imp hc
    rw [← hhashes, hcs]
    exact trims_trimChars cs
  · intro h
    have hfirst := List.head?_dropWhile_not (· = '#') (trimChars cs)
    simp [h] at hfirst

lemma IsBody.eq (h : IsBody cs body) : (trimChars cs).dropWhile (· = '#') = body := by
  obtain ⟨count, hhashes⟩ := h.hashes
  rw [hhashes.eq, List.dropWhile_append_of_pos (by simp)]
  cases body with
  | nil => rfl
  | cons c body =>
    have hc : c ≠ '#' := fun hc => h.first (congrArg some hc)
    exact List.dropWhile_cons_of_neg (by simpa using hc)

lemma channel?_eq_some_iff :
    channel? c d = some channel ↔ ∃ n, Channel c d n ∧ n.toUInt8 = channel := by
  constructor
  · intro h
    unfold channel? at h
    split at h
    · next hc =>
      obtain ⟨low, hlow, rfl⟩ := Option.map_eq_some_iff.mp h
      exact ⟨low, hc ▸ .signed (hexDigit?_eq_some_iff.mp hlow), rfl⟩
    · simp only [Option.bind_eq_bind, Option.bind_eq_some_iff, Option.pure_def, Option.some_inj] at h
      obtain ⟨high, hhigh, low, hlow, rfl⟩ := h
      exact ⟨_, .digits (hexDigit?_eq_some_iff.mp hhigh) (hexDigit?_eq_some_iff.mp hlow), rfl⟩
  · rintro ⟨n, h, rfl⟩
    cases h with
    | digits hhigh hlow =>
      have hhigh := hexDigit?_eq_some_iff.mpr hhigh
      have hlow := hexDigit?_eq_some_iff.mpr hlow
      have hc : c ≠ '+' := by
        rintro rfl
        cases hhigh
      simp [channel?, hc, hhigh, hlow]
    | signed hlow => simp [channel?, hexDigit?_eq_some_iff.mpr hlow]

lemma shortChannel?_eq_some_iff :
    shortChannel? c = some channel ↔ ∃ n, HexDigit c n ∧ (17 * n).toUInt8 = channel := by
  simp only [shortChannel?, Option.map_eq_some_iff, hexDigit?_eq_some_iff]

lemma ofChannels?_eq_some_iff : ofChannels? body = some color ↔ Spells body color := by
  constructor
  · intro h
    unfold ofChannels? at h
    split at h
    · simp only [Option.bind_eq_bind, Option.bind_eq_some_iff, Option.pure_def, Option.some_inj,
        shortChannel?_eq_some_iff] at h
      obtain ⟨_, ⟨r, hred, rfl⟩, _, ⟨g, hgreen, rfl⟩, _, ⟨b, hblue, rfl⟩, rfl⟩ := h
      exact .short hred hgreen hblue
    · simp only [Option.bind_eq_bind, Option.bind_eq_some_iff, Option.pure_def, Option.some_inj,
        channel?_eq_some_iff] at h
      obtain ⟨_, ⟨r, hred, rfl⟩, _, ⟨g, hgreen, rfl⟩, _, ⟨b, hblue, rfl⟩, rfl⟩ := h
      exact .long hred hgreen hblue
    · simp only [Option.bind_eq_bind, Option.bind_eq_some_iff, Option.pure_def, Option.some_inj,
        channel?_eq_some_iff] at h
      obtain ⟨_, ⟨r, hred, rfl⟩, _, ⟨g, hgreen, rfl⟩, _, ⟨b, hblue, rfl⟩, _, ⟨a, halpha, rfl⟩,
        rfl⟩ := h
      exact .clear hred hgreen hblue halpha
    · cases h
  · intro h
    cases h with
    | short hred hgreen hblue =>
      simp [ofChannels?, shortChannel?_eq_some_iff.mpr ⟨_, hred, rfl⟩,
        shortChannel?_eq_some_iff.mpr ⟨_, hgreen, rfl⟩, shortChannel?_eq_some_iff.mpr ⟨_, hblue, rfl⟩]
    | long hred hgreen hblue =>
      simp [ofChannels?, channel?_eq_some_iff.mpr ⟨_, hred, rfl⟩,
        channel?_eq_some_iff.mpr ⟨_, hgreen, rfl⟩, channel?_eq_some_iff.mpr ⟨_, hblue, rfl⟩]
    | clear hred hgreen hblue halpha =>
      simp [ofChannels?, channel?_eq_some_iff.mpr ⟨_, hred, rfl⟩,
        channel?_eq_some_iff.mpr ⟨_, hgreen, rfl⟩, channel?_eq_some_iff.mpr ⟨_, hblue, rfl⟩,
        channel?_eq_some_iff.mpr ⟨_, halpha, rfl⟩]

/-- The text of a color is read from what is left of it. -/
lemma ofHex?_eq_some_iff (h : IsBody text.toList body) :
    ofHex? text = some color ↔ Spells body color := by
  rw [ofHex?, h.eq, ofChannels?_eq_some_iff]

/-! ### Which texts are colors -/

lemma Channel.digits_of_ne (h : Channel c d n) (hc : '+' ≠ c) :
    (∃ n, HexDigit c n) ∧ ∃ n, HexDigit d n := by
  cases h with
  | digits hhigh hlow => exact ⟨⟨_, hhigh⟩, ⟨_, hlow⟩⟩
  | signed => exact absurd rfl hc

/-- Without a plus sign, the characters of a color are digits. -/
lemma Spells.isHex (h : Spells body color) (hsign : '+' ∉ body) : IsHex body := by
  cases h with
  | short hred hgreen hblue =>
    refine ⟨.inl rfl, ?_⟩
    simp only [List.forall_mem_cons]
    exact ⟨⟨_, hred⟩, ⟨_, hgreen⟩, ⟨_, hblue⟩, List.forall_mem_nil _⟩
  | long hred hgreen hblue =>
    simp only [List.mem_cons, not_or] at hsign
    obtain ⟨hc, -, hd, -, he, -⟩ := hsign
    refine ⟨.inr (.inl rfl), ?_⟩
    simp only [List.forall_mem_cons, hred.digits_of_ne hc, hgreen.digits_of_ne hd,
      hblue.digits_of_ne he, true_and]
    exact List.forall_mem_nil _
  | clear hred hgreen hblue halpha =>
    simp only [List.mem_cons, not_or] at hsign
    obtain ⟨hc, -, hd, -, he, -, hf, -⟩ := hsign
    refine ⟨.inr (.inr rfl), ?_⟩
    simp only [List.forall_mem_cons, hred.digits_of_ne hc, hgreen.digits_of_ne hd,
      hblue.digits_of_ne he, halpha.digits_of_ne hf, true_and]
    exact List.forall_mem_nil _

lemma exists_channel (hlength : body.length = n + 2) (hdigits : ∀ c ∈ body, ∃ n, HexDigit c n) :
    ∃ c d rest, body = c :: d :: rest ∧ (∃ m, Channel c d m) ∧ rest.length = n
      ∧ ∀ c ∈ rest, ∃ n, HexDigit c n := by
  match body, hlength with
  | c :: d :: rest, hlength =>
    simp only [List.forall_mem_cons] at hdigits
    obtain ⟨⟨_, hc⟩, ⟨_, hd⟩, hrest⟩ := hdigits
    exact ⟨c, d, rest, rfl, ⟨_, .digits hc hd⟩, Nat.add_right_cancel (m := 2) hlength, hrest⟩

lemma IsHex.exists_spells (h : IsHex body) : ∃ color, Spells body color := by
  obtain ⟨hlength, hdigits⟩ := h
  rcases hlength with hlength | hlength | hlength
  · obtain ⟨c, d, e, rfl⟩ := List.length_eq_three.mp hlength
    simp only [List.forall_mem_cons] at hdigits
    obtain ⟨⟨_, hred⟩, ⟨_, hgreen⟩, ⟨_, hblue⟩, -⟩ := hdigits
    exact ⟨_, .short hred hgreen hblue⟩
  · obtain ⟨_, _, _, rfl, ⟨_, hred⟩, h₄, hdigits₄⟩ := exists_channel hlength hdigits
    obtain ⟨_, _, _, rfl, ⟨_, hgreen⟩, h₂, hdigits₂⟩ := exists_channel h₄ hdigits₄
    obtain ⟨_, _, _, rfl, ⟨_, hblue⟩, h₀, -⟩ := exists_channel h₂ hdigits₂
    obtain rfl := List.eq_nil_of_length_eq_zero h₀
    exact ⟨_, .long hred hgreen hblue⟩
  · obtain ⟨_, _, _, rfl, ⟨_, hred⟩, h₆, hdigits₆⟩ := exists_channel hlength hdigits
    obtain ⟨_, _, _, rfl, ⟨_, hgreen⟩, h₄, hdigits₄⟩ := exists_channel h₆ hdigits₆
    obtain ⟨_, _, _, rfl, ⟨_, hblue⟩, h₂, hdigits₂⟩ := exists_channel h₄ hdigits₄
    obtain ⟨_, _, _, rfl, ⟨_, halpha⟩, h₀, -⟩ := exists_channel h₂ hdigits₂
    obtain rfl := List.eq_nil_of_length_eq_zero h₀
    exact ⟨_, .clear hred hgreen hblue halpha⟩

/-! ### Written colors -/

lemma hexDigit_digitChar (h : n < 16) : HexDigit (Nat.digitChar n) n :=
  ⟨h, .inl rfl⟩

lemma toUInt8_channel (channel : UInt8) :
    (16 * (channel.toNat / 16) + channel.toNat % 16).toUInt8 = channel := by
  rw [Nat.div_add_mod]
  exact UInt8.ofNat_toNat

lemma spells_hexText (red green blue : UInt8) :
    Spells (hexText red ++ hexText green ++ hexText blue) (opaqueColor red green blue) := by
  have hchannel (channel : UInt8) : Channel (Nat.digitChar (channel.toNat / 16))
      (Nat.digitChar (channel.toNat % 16)) (16 * (channel.toNat / 16) + channel.toNat % 16) := by
    have hlt := channel.toNat_lt
    exact .digits (hexDigit_digitChar (by omega)) (hexDigit_digitChar (by omega))
  have hspells := Spells.long (hchannel red) (hchannel green) (hchannel blue)
  rw [toUInt8_channel, toUInt8_channel, toUInt8_channel] at hspells
  exact hspells

/-- After a `#`, characters that are neither blank nor another one are all left. -/
lemma isBody_cons (h : ∀ c ∈ body, isBlank c = false ∧ c ≠ '#') : IsBody ('#' :: body) body where
  hashes := by
    have hblank : ∀ c ∈ '#' :: body, isBlank c = false :=
      List.forall_mem_cons.mpr ⟨rfl, fun c hc => (h c hc).1⟩
    have htrims := trims_trimChars ('#' :: body)
    rw [trimChars_of_forall hblank] at htrims
    exact ⟨1, htrims⟩
  first := fun hhash => (h '#' (List.mem_of_head? hhash)).2 rfl

lemma digit_of_mem_hexText (h : c ∈ hexText channel) : isBlank c = false ∧ c ≠ '#' := by
  have hdigit : ∀ n < 16, isBlank (Nat.digitChar n) = false ∧ Nat.digitChar n ≠ '#' := by decide
  have hlt := channel.toNat_lt
  simp only [hexText, List.mem_cons, List.not_mem_nil, or_false] at h
  rcases h with rfl | rfl
  · exact hdigit _ (by omega)
  · exact hdigit _ (by omega)

/-- An opaque color is read from what it is written as. -/
lemma ofHex?_css (red green blue : UInt8) :
    ofHex? (opaqueColor red green blue).css = some (opaqueColor red green blue) := by
  have hopaque : 1 ≤ (opaqueColor red green blue).alpha := by
    change (1 : Float32) ≤ 1
    decide +kernel
  have hbody : IsBody (opaqueColor red green blue).css.toList
      (hexText red ++ hexText green ++ hexText blue) := by
    rw [css, if_pos hopaque, String.toList_ofList]
    refine isBody_cons fun c hc => ?_
    rcases List.mem_append.mp hc with hc | hc
    · rcases List.mem_append.mp hc with hc | hc
      · exact digit_of_mem_hexText hc
      · exact digit_of_mem_hexText hc
    · exact digit_of_mem_hexText hc
  exact (ofHex?_eq_some_iff hbody).mpr (spells_hexText red green blue)

/-- Only a color of eight characters is not opaque. -/
lemma Spells.ofHex?_css (h : Spells body color) (hlength : body.length ≠ 8) :
    ofHex? color.css = some color := by
  cases h with
  | short => exact Color.ofHex?_css _ _ _
  | long => exact Color.ofHex?_css _ _ _
  | clear => exact absurd rfl hlength

end Color

/-! ### Palettes -/

namespace DesignSystem

variable {brand : BrandColors} {role : ColorRole} {text : String}

/-- What the container of a palette ends in that is made of a brand color. -/
def brandOpacity : String := ", 0.16)"

lemma exists_container_ofBrand (color : Color) :
    ∃ front, (Palette.ofBrand color).container = front ++ brandOpacity := by
  have halpha : ¬1 ≤ (color.withAlpha 0.16).alpha := by
    change ¬1 ≤ Color.clampUnit 0.16
    decide +kernel
  have htext : Color.alphaText (color.withAlpha 0.16).alpha = "0.16" := by
    change Color.alphaText (Color.clampUnit 0.16) = "0.16"
    decide +kernel
  have hopacity : ", " ++ ("0.16" ++ ")") = brandOpacity := by decide
  simp only [Palette.ofBrand, Color.css, if_neg halpha, htext, String.append_assoc, hopacity]
  simp only [← String.append_assoc]
  exact ⟨_, rfl⟩

lemma not_endsIn_brandOpacity {system : DesignSystem}
    (h : system ∈ [Material.system, Cupertino.system]) (hbrand : brand.color? role = some text) :
    ¬brandOpacity.toList <:+ (system.palette role).container.toList := by
  simp only [List.mem_cons, List.not_mem_nil, or_false] at h
  cases role with
  | primary => rcases h with rfl | rfl <;> decide +kernel
  | secondary => rcases h with rfl | rfl <;> decide +kernel
  | tertiary => rcases h with rfl | rfl <;> decide +kernel
  | _ => cases hbrand

/-- A brand color changes the palette of its role where it is one. -/
lemma brandedPalette_ne_iff {system : DesignSystem}
    (h : system ∈ [Material.system, Cupertino.system]) (hbrand : brand.color? role = some text) :
    system.brandedPalette brand role ≠ system.palette role
      ↔ ∃ color, Color.ofHex? text = some color := by
  have hread : (brand.color? role).bind Color.ofHex? = Color.ofHex? text := by
    rw [hbrand, Option.bind_some]
  unfold brandedPalette
  rw [hread]
  split
  · next color hcolor =>
    refine iff_of_true (fun heq => ?_) ⟨color, hcolor⟩
    obtain ⟨front, hfront⟩ := exists_container_ofBrand color
    refine not_endsIn_brandOpacity h hbrand ⟨front.toList, ?_⟩
    rw [← heq, hfront, String.toList_append]
  · next hnone => simp [hnone]

end DesignSystem

namespace Color

/-- A text is read as a color by what is left of it without blanks around it and `#` before it. Three,
six and eight hexadecimal digits are a color, and so are characters that have a plus sign in place of
the first of two digits of a channel, but nothing else is. A color is read again from what it is written
as, unless it was given an opacity by eight characters. A brand color changes the palette of its role
just where its text is read as a color. -/
theorem ofHex?_laws (text : String) : ∃ body, IsBody text.toList body
    ∧ (∀ color, ofHex? text = some color ↔ Spells body color)
    ∧ (IsHex body → ∃ color, ofHex? text = some color)
    ∧ ('+' ∉ body → ∀ color, ofHex? text = some color → IsHex body)
    ∧ (body.length ≠ 8 → ∀ color, ofHex? text = some color → ofHex? color.css = some color)
    ∧ ∀ system ∈ [DesignSystem.Material.system, DesignSystem.Cupertino.system], ∀ brand role,
      BrandColors.color? brand role = some text →
        (system.brandedPalette brand role ≠ system.palette role ↔ ∃ color, Spells body color) := by
  obtain ⟨body, hbody⟩ := exists_isBody text.toList
  have hread (color : Color) : ofHex? text = some color ↔ Spells body color := ofHex?_eq_some_iff hbody
  refine ⟨body, hbody, hread, fun h => ?hex, fun hsign color h => ((hread color).mp h).isHex hsign,
    fun hlength color h => ((hread color).mp h).ofHex?_css hlength, ?brand⟩
  case hex =>
    obtain ⟨color, hcolor⟩ := h.exists_spells
    exact ⟨color, (hread color).mpr hcolor⟩
  case brand =>
    intro system hsystem brand role hbrand
    rw [DesignSystem.brandedPalette_ne_iff hsystem hbrand]
    exact exists_congr hread

/-- A plus sign before each digit of a channel is no hexadecimal digit, and a color is read. -/
theorem ofHex?_plus_signs : ¬((∃ color, ofHex? "+f+f+f" = some color)
    ↔ ∃ body, IsBody "+f+f+f".toList body ∧ IsHex body) := by
  intro h
  have hread : ∃ color, ofHex? "+f+f+f" = some color := ⟨opaqueColor 15 15 15, by decide +kernel⟩
  obtain ⟨body, hbody, hhex⟩ := h.mp hread
  have hplus : '+' ∈ body := by
    rw [← hbody.eq]
    decide
  obtain ⟨n, hdigit⟩ := hhex.digits '+' hplus
  cases hexDigit?_eq_some_iff.mpr hdigit

end Color

end Wireframe
