import Wireframe.Styles
import Mathlib.Tactic.Common

/-!
# Resolved styles

Whatever a style asks for and whatever colors a brand has, the attributes that come of it can be seen:
what a design system has to answer for is `DesignSystem.Complete`, and both of them do. A brand color
reaches the attributes through the palette of its own role, so it changes the look of this role only
(`Styles.attributes_resolveOver`).
-/

namespace Wireframe

/-! ### Colors that are written -/

lemma Color.css_ne_empty (color : Color) : color.css ≠ "" := by
  rw [css]
  split
  · simp [← String.toList_inj]
  · simp [String.append_assoc]

/-- Whether a palette has a text for each of its colors. -/
structure Palette.Written (palette : Palette) : Prop where
  main : palette.main ≠ ""
  onMain : palette.onMain ≠ ""
  container : palette.container ≠ ""
  onContainer : palette.onContainer ≠ ""

lemma Palette.written_ofBrand (color : Color) : (ofBrand color).Written where
  main := color.css_ne_empty
  onMain := color.contrasting.css_ne_empty
  container := (color.withAlpha 0.16).css_ne_empty
  onContainer := color.css_ne_empty

/-- Whether both colors of a surface are written. -/
structure Paint.Written (paint : Paint) : Prop where
  background : paint.background ≠ ""
  foreground : paint.foreground ≠ ""

/-- Whether a node with these attributes has colors, a corner and a font that can be seen. -/
structure Attributes.Visible (attributes : Attributes) : Prop where
  background : attributes.background ≠ ""
  foreground : attributes.foreground ≠ ""
  cornerRadius : 0 < attributes.cornerRadius
  fontSize : 0 < attributes.typography.size

/-! ### Design systems -/

namespace DesignSystem

lemma ite_ne_empty (c : Prop) [Decidable c] {text other : String} (h : text ≠ "")
    (hother : other ≠ "") : (if c then text else other) ≠ "" := by
  split <;> assumption

lemma transparent_ne_empty : "transparent" ≠ "" := by
  decide

lemma cornerRadius_pos : 0 < cornerRadius := by
  decide

/-- What a design system answers for: palettes for all roles, fonts for the whole type scale, and paint
of whatever palette it is given. -/
structure Complete (system : DesignSystem) : Prop where
  palette : ∀ role, (system.palette role).Written
  size : ∀ textStyle, 0 < (system.typography textStyle).size
  paint : ∀ style {palette : Palette}, palette.Written → (system.paint style palette).Written

namespace Complete

variable {system : DesignSystem}

lemma brandedPalette (h : system.Complete) (brand : BrandColors) (role : ColorRole) :
    (system.brandedPalette brand role).Written := by
  unfold DesignSystem.brandedPalette
  split
  · exact Palette.written_ofBrand _
  · exact h.palette role

lemma compose (h : system.Complete) (style : DecidedStyle) {palette : Palette}
    (hpalette : palette.Written) : (system.compose style palette).Visible where
  background := (h.paint style hpalette).background
  foreground := (h.paint style hpalette).foreground
  cornerRadius := cornerRadius_pos
  fontSize := h.size style.textStyle

end Complete

namespace Material

lemma surfaceTint_ne_empty (level : SurfaceLevel) : surfaceTint level ≠ "" := by
  cases level <;> decide

lemma onSurface_ne_empty : onSurface ≠ "" := by
  decide

lemma written_palette (role : ColorRole) : (palette role).Written := by
  cases role <;> exact ⟨by decide, by decide, by decide, by decide⟩

lemma size_pos (textStyle : TextStyle) : 0 < (typography textStyle).size := by
  cases textStyle <;> decide

lemma written_paint (style : DecidedStyle) {palette : Palette} (h : palette.Written) :
    (paint style palette).Written := by
  obtain ⟨level, role, variant, textStyle⟩ := style
  have accent := ite_ne_empty role.isNeutral onSurface_ne_empty h.main
  match variant with
  | some .filled =>
    exact ⟨ite_ne_empty _ (surfaceTint_ne_empty level) h.main,
      ite_ne_empty _ onSurface_ne_empty h.onMain⟩
  | some .tonal => exact ⟨h.container, h.onContainer⟩
  | some .outlined => exact ⟨transparent_ne_empty, accent⟩
  | some .text => exact ⟨transparent_ne_empty, accent⟩
  | some .elevated => exact ⟨surfaceTint_ne_empty level.atLeastOne, accent⟩
  | none =>
    exact ⟨ite_ne_empty _ (surfaceTint_ne_empty level) h.container,
      ite_ne_empty _ onSurface_ne_empty h.onContainer⟩

lemma complete : system.Complete where
  palette := written_palette
  size := size_pos
  paint := written_paint

end Material

namespace Cupertino

lemma material_ne_empty (level : SurfaceLevel) : material level ≠ "" := by
  cases level <;> decide

lemma label_ne_empty : label ≠ "" := by
  decide

lemma written_palette (role : ColorRole) : (palette role).Written := by
  have onMain : "#ffffff" ≠ "" := by decide
  unfold palette
  split
  · exact ⟨(systemColor role).css_ne_empty, label_ne_empty, material_ne_empty .level1, label_ne_empty⟩
  · exact ⟨(systemColor role).css_ne_empty, onMain, Color.css_ne_empty _, Color.css_ne_empty _⟩

lemma size_pos (textStyle : TextStyle) : 0 < (typography textStyle).size := by
  cases textStyle <;> decide

lemma written_materialPaint (level : SurfaceLevel) {foreground : String} (h : foreground ≠ "") :
    (materialPaint level foreground).Written :=
  ⟨material_ne_empty level, h⟩

lemma written_paint (style : DecidedStyle) {palette : Palette} (h : palette.Written) :
    (paint style palette).Written := by
  obtain ⟨level, role, variant, textStyle⟩ := style
  have accent := ite_ne_empty role.isNeutral label_ne_empty h.main
  have plain : (if role.isNeutral then materialPaint level label
      else { background := palette.container, foreground := palette.onContainer }).Written := by
    split
    · exact written_materialPaint level label_ne_empty
    · exact ⟨h.container, h.onContainer⟩
  match variant with
  | some .filled =>
    simp only [paint]
    split
    · rwa [if_pos ‹_›] at plain
    · exact ⟨h.main, h.onMain⟩
  | some .tonal => exact plain
  | some .outlined => exact ⟨transparent_ne_empty, accent⟩
  | some .text => exact ⟨transparent_ne_empty, accent⟩
  | some .elevated => exact written_materialPaint level.atLeastOne accent
  | none => exact plain

lemma complete : system.Complete where
  palette := written_palette
  size := size_pos
  paint := written_paint

end Cupertino

end DesignSystem

/-! ### Brand colors -/

/-- Whether two brands have different texts for the color of a role. Only the first three roles have
one. -/
inductive BrandColors.DifferAt (brand other : BrandColors) : ColorRole → Prop
  | primary (h : brand.primary ≠ other.primary) : DifferAt brand other .primary
  | secondary (h : brand.secondary ≠ other.secondary) : DifferAt brand other .secondary
  | tertiary (h : brand.accent ≠ other.accent) : DifferAt brand other .tertiary

lemma BrandColors.color?_eq_or_differAt (brand other : BrandColors) (role : ColorRole) :
    other.color? role = brand.color? role ∨ brand.DifferAt other role := by
  by_cases h : other.color? role = brand.color? role
  · exact .inl h
  · refine .inr ?_
    cases role
    case primary => exact .primary (Ne.symm h)
    case secondary => exact .secondary (Ne.symm h)
    case tertiary => exact .tertiary (Ne.symm h)
    -- The other roles have no color in either brand.
    all_goals exact absurd rfl h

lemma DesignSystem.brandedPalette_congr (system : DesignSystem) {brand other : BrandColors}
    {role : ColorRole} (h : other.color? role = brand.color? role) :
    system.brandedPalette other role = system.brandedPalette brand role := by
  rw [brandedPalette, brandedPalette, h]

/-! ### Platforms -/

namespace Styles

lemma platform_ne_auto (styles : Styles) (style : Style) : styles.platform style ≠ .auto := by
  have or_android (platform : Platform) : platform.or .android ≠ .auto := by
    cases platform <;> decide
  exact or_android _

lemma platform_system {platform : Platform} (h : platform ≠ .auto) :
    (system platform).platform = platform := by
  cases platform
  case auto => exact absurd rfl h
  all_goals rfl

lemma complete_system (platform : Platform) : (system platform).Complete := by
  cases platform
  case ios => exact DesignSystem.Cupertino.complete
  all_goals exact DesignSystem.Material.complete

/-! ### Names -/

/-- The style that a name stands for: the library comes before the built-in styles, these before the
type scale, and any other name stands for the empty style. -/
inductive Names (styles : Styles) (name : String) : Style → Prop
  | library {style : Style} (h : styles.library.styles.get? name = some style) :
      Names styles name style
  | builtin {style : Style} (hlibrary : styles.library.styles.get? name = none)
      (h : Style.builtin? name = some style) : Names styles name style
  | typeScale {textStyle : TextStyle} (hlibrary : styles.library.styles.get? name = none)
      (hbuiltin : Style.builtin? name = none) (h : TextStyle.ofName? name = some textStyle) :
      Names styles name { textStyle := some textStyle }
  | unknown (hlibrary : styles.library.styles.get? name = none)
      (hbuiltin : Style.builtin? name = none) (h : TextStyle.ofName? name = none) :
      Names styles name Style.empty

lemma names_definition (styles : Styles) (name : String) :
    styles.Names name (styles.definition (.named name)) := by
  rw [definition, lookup]
  cases hlibrary : styles.library.styles.get? name with
  | some style => exact .library hlibrary
  | none =>
    cases hbuiltin : Style.builtin? name with
    | some style => exact .builtin hlibrary hbuiltin
    | none =>
      cases h : TextStyle.ofName? name with
      | some textStyle => exact .typeScale hlibrary hbuiltin h
      | none => exact .unknown hlibrary hbuiltin h

/-- A name stands for one style, which is what it is looked up as. -/
lemma names_iff {styles : Styles} {name : String} {style : Style} :
    styles.Names name style ↔ style = styles.definition (.named name) := by
  constructor
  · intro h
    rw [definition, lookup]
    cases h with
    | library h => rw [h, Option.some_or, Option.getD_some]
    | builtin hlibrary h => rw [hlibrary, h, Option.none_or, Option.some_or, Option.getD_some]
    | typeScale hlibrary hbuiltin h => rw [hlibrary, hbuiltin, h]; rfl
    | unknown hlibrary hbuiltin h => rw [hlibrary, hbuiltin, h]; rfl
  · rintro rfl
    exact styles.names_definition name

/-! ### Resolution -/

/-- The same styles for another brand. -/
def withBrand (styles : Styles) (brand : BrandColors) : Styles :=
  { styles with library := { styles.library with brand } }

lemma platform_resolve (styles : Styles) (style : Style) :
    (styles.resolve style).platform = styles.platform style :=
  platform_system (styles.platform_ne_auto style)

lemma visible_resolve (styles : Styles) (style : Style) : (styles.resolve style).Visible :=
  have complete := complete_system (styles.platform style)
  complete.compose _ (complete.brandedPalette _ _)

lemma resolve_withBrand (styles : Styles) (style : Style) (brand : BrandColors) :
    (styles.withBrand brand).resolve style = styles.resolve style ∨
      styles.library.brand.DifferAt brand style.decide.colorRole := by
  refine (styles.library.brand.color?_eq_or_differAt brand style.decide.colorRole).imp_left ?_
  intro h
  have hpalette := (system (styles.platform style)).brandedPalette_congr h
  exact congrArg ((system (styles.platform style)).compose style.decide) hpalette

/-- Resolution gives attributes of a platform that can be seen. A name resolves as the one style that it
stands for, and another brand changes a style only where it has another text for the color of its role. -/
theorem attributes_resolveOver (styles : Styles) (style : Option StyleRef) (base : Style) :
    let merged := ((style.map styles.definition).getD Style.empty).or base
    let attributes := styles.resolveOver style base
    (attributes.platform = .ios ∨ attributes.platform = .android) ∧
      attributes.platform = styles.platform merged ∧
      attributes.Visible ∧
      (∀ name, ∃ found, (∀ other, styles.Names name other ↔ other = found) ∧
        styles.resolveOver (some (.named name)) base =
          styles.resolveOver (some (.inline found)) base) ∧
      ∀ brand, (styles.withBrand brand).resolveOver style base = attributes ∨
        styles.library.brand.DifferAt brand merged.decide.colorRole := by
  intro merged attributes
  have hplatform : attributes.platform = styles.platform merged := styles.platform_resolve merged
  refine ⟨?platform, hplatform, styles.visible_resolve merged, ?name, ?brand⟩
  case platform =>
    have h := styles.platform_ne_auto merged
    rw [← hplatform] at h
    cases hp : attributes.platform
    case ios => exact .inl rfl
    case android => exact .inr rfl
    case auto => exact absurd hp h
  case name => exact fun name => ⟨_, fun _ => names_iff, rfl⟩
  case brand =>
    intro brand
    -- Names are looked up without the brand, so the merged style is the same.
    exact styles.resolve_withBrand merged brand

end Styles

end Wireframe
