import ChatWarden.Proofs.Arguments
import ChatWarden.Proofs.Registration

/-!
# Arguments of an enumeration

A token of an enumeration becomes a declared variant, in the spelling it was declared in
(`EnumType.declares_of_convert`). A default is taken as it stands. Registration asks of it no more
than that a variant of that spelling exists up to ASCII case; it looks neither at the name of the
type nor at a default of any other kind. So the argument is a declared variant, or unset, exactly if
its token is given or its default is one (`CatalogBuilder.enumeration_argument_declared_iff`).
-/

namespace ChatWarden

namespace Command

namespace EnumType

variable {t : EnumType} {token : String} {v : Value}

/-- Whether a value is one of the variants, as it was declared. -/
def Declares (t : EnumType) (v : Value) : Prop :=
  ∃ name ∈ t.variants, v = .variant t.name name

theorem declares_variant_iff {typeName name : String} :
    t.Declares (.variant typeName name) ↔ typeName = t.name ∧ name ∈ t.variants := by
  simp only [Declares, Value.variant.injEq]
  grind

theorem convert_eq_ok_iff :
    (ParamType.enumeration t).convert token = .ok v ↔
      ∃ name, t.resolve? token = some name ∧ v = .variant t.name name := by
  rw [ParamType.convert]
  cases t.resolve? token <;> simp [eq_comm]

/-- A token that is converted becomes a declared variant. -/
theorem declares_of_convert (h : (ParamType.enumeration t).convert token = .ok v) :
    t.Declares v := by
  obtain ⟨name, hname, rfl⟩ := convert_eq_ok_iff.mp h
  exact ⟨name, mem_of_resolve? hname, rfl⟩

end EnumType

namespace Param

/-- What registration asks of a default of an enumeration: if it is a variant, its spelling is that
of a declared one up to ASCII case. -/
theorem hasInvalidDefault_eq_false_iff {p : Param} {t : EnumType} (ht : p.type = .enumeration t) :
    p.hasInvalidDefault = false ↔
      ∀ typeName name, p.fallback = some (.variant typeName name) →
        ∃ variant ∈ t.variants, Text.sameIgnoringCase variant name = true := by
  rw [hasInvalidDefault, ht]
  split
  · rename_i t' typeName name htype hfallback
    cases htype
    simp [hfallback, EnumType.resolve?]
  · rename_i hother
    simp only [true_iff]
    exact fun typeName name hfallback => (hother t typeName name rfl hfallback).elim

end Param

end Command

namespace CatalogBuilder

open Command

variable {η : Type}

/-- The argument of an enumeration is a declared variant, or unset, exactly if there is a token for
it or its default, if it has one, is so itself. -/
theorem enumeration_argument_declared_iff {b b' : CatalogBuilder η} {command : Command}
    {handler : η} (hregister : b.register command handler = .ok b') {tokens : List String}
    {arguments : Arguments} (hcoerce : coerce command.params tokens = .ok arguments) {i : Nat}
    {p : Param} (hp : command.params[i]? = some p) {t : EnumType} (ht : p.type = .enumeration t)
    (hv : p.isVariadic = false) :
    ∃ v, arguments.get? p.name = some v ∧
      ((v = .unset ∨ t.Declares v) ↔
        i < tokens.length ∨ ∀ d, p.fallback = some d → d = .unset ∨ t.Declares d) ∧
      ∀ typeName name, v = .variant typeName name →
        ∃ variant ∈ t.variants, Text.sameIgnoringCase variant name = true := by
  have hfault : paramFault? command.path [] command.params = none :=
    paramFault?_of_fault? (fault?_eq_none_of_register hregister)
  obtain ⟨-, hnodup, -, hdefaults⟩ := paramFault?_eq_none_iff.mp hfault
  obtain ⟨v, hget, hvalue⟩ := get?_of_coerce hnodup hcoerce hp
  refine ⟨v, hget, ?_⟩
  rcases (coerceParam_drop_eq_ok_iff hv).mp hvalue with
    ⟨token, htoken, hconvert⟩ | ⟨hnone, -, rfl⟩
  · have hi : i < tokens.length := (List.getElem?_eq_some_iff.mp htoken).1
    rw [ht] at hconvert
    have hdeclared : t.Declares v := EnumType.declares_of_convert hconvert
    refine ⟨iff_of_true (.inr hdeclared) (.inl hi), ?_⟩
    rintro typeName name rfl
    exact ⟨name, (EnumType.declares_variant_iff.mp hdeclared).2, Text.sameIgnoringCase_self name⟩
  · have hi : ¬i < tokens.length := by simpa using hnone
    have hdefault := (Param.hasInvalidDefault_eq_false_iff ht).mp
      (hdefaults p (List.mem_of_getElem? hp))
    cases hfallback : p.fallback with
    | none => simp
    | some d =>
        refine ⟨by simp [hi], fun typeName name hd => hdefault typeName name ?_⟩
        rw [hfallback, ← hd, Option.getD_some]

def color : EnumType := ⟨"Color", ["Red", "Green"]⟩

/-- The command `paint` with a color to take by default. -/
def paint (default : Value) : Command :=
  { Command.ofSegments ["paint"] with
    params := [Param.withDefault { name := "color", type := .enumeration color } default] }

/-- A default that is no color does not matter where a color is given. -/
theorem enumeration_argument_declared_red :
    ∃ b : CatalogBuilder Unit, empty.register (paint (.text "Blue")) () = .ok b ∧
      coerce (paint (.text "Blue")).params ["RED"] =
        .ok ⟨[("color", .variant "Color" "Red")]⟩ ∧
      ∃ v, (Arguments.mk [("color", .variant "Color" "Red")]).get? "color" = some v ∧
        ((v = .unset ∨ color.Declares v) ↔
          0 < 1 ∨ ∀ d, some (.text "Blue") = some d → d = .unset ∨ color.Declares d) ∧
        ∀ typeName name, v = .variant typeName name →
          ∃ variant ∈ color.variants, Text.sameIgnoringCase variant name = true := by
  have hregister : ∃ b, empty.register (paint (.text "Blue")) () = .ok b := ⟨_, rfl⟩
  obtain ⟨b, hb⟩ := hregister
  have hcoerce : coerce (paint (.text "Blue")).params ["RED"] =
      .ok ⟨[("color", .variant "Color" "Red")]⟩ := rfl
  have hparam : (paint (.text "Blue")).params[0]? = some
      (Param.withDefault { name := "color", type := .enumeration color } (.text "Blue")) := rfl
  exact ⟨b, hb, hcoerce, enumeration_argument_declared_iff hb hcoerce hparam rfl rfl⟩

/-- Whether `paint` is accepted with a default and called with it, although it is no color. -/
def TakesUndeclared (default : Value) : Prop :=
  ∃ (b : CatalogBuilder Unit) (arguments : Arguments),
    empty.register (paint default) () = .ok b ∧
    coerce (paint default).params [] = .ok arguments ∧
    arguments.get? "color" = some default ∧ default ≠ .unset ∧ ¬color.Declares default

theorem takesUndeclared_of_register {default : Value}
    (hregister : ∃ b : CatalogBuilder Unit, empty.register (paint default) () = .ok b)
    (hset : default ≠ .unset) (hdefault : ¬color.Declares default) : TakesUndeclared default := by
  obtain ⟨b, hb⟩ := hregister
  have hcoerce : coerce (paint default).params [] = .ok ⟨[("color", default)]⟩ := rfl
  have hget : (Arguments.mk [("color", default)]).get? "color" = some default := rfl
  exact ⟨b, _, hb, hcoerce, hget, hset, hdefault⟩

/-- A word, a variant in another spelling and a variant of another type are accepted as defaults,
and a call without a token is given them. -/
theorem takes_undeclared_color :
    TakesUndeclared (.text "Blue") ∧ TakesUndeclared (.variant "Color" "red") ∧
      TakesUndeclared (.variant "Shade" "Red") := by
  refine ⟨?word, ?spelling, ?type⟩
  case word =>
    exact takesUndeclared_of_register ⟨_, rfl⟩ nofun (by simp [EnumType.Declares])
  case spelling =>
    exact takesUndeclared_of_register ⟨_, rfl⟩ nofun
      (by simp [EnumType.declares_variant_iff, color])
  case type =>
    exact takesUndeclared_of_register ⟨_, rfl⟩ nofun
      (by simp [EnumType.declares_variant_iff, color])

end CatalogBuilder

end ChatWarden
