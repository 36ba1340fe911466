import SchemaGuards.Proofs.Declaration.Equality
import SchemaGuards.Proofs.Syntax.Alias
import SchemaGuards.Proofs.Syntax.Declared
import SchemaGuards.Proofs.Syntax.Positional

/-!
# Types that were read are read back

The text of a type that a source text declares is read as this type again, for the shapes that have a
constructor of their own. `Readable` lists what is lost in writing: a word that was written with an
escape or in parentheses may have a meaning without, a null character before an octal digit is
written as no string has it, a number that is too large to be finite has no digits, and a declaration
behind `export` is read with its faulty words and numbers.

## Implementation notes

That a union has several parts, a name has a part and a number as a name is the text of a number is
known of every type that is read, so nothing is asked of a type there.
-/

namespace SchemaGuards

open Syntax Syntax.Parse

/-! ## Shapes -/

namespace TypeExpr

/-- A type of the shapes that schemas are made of. No part of a union is itself a union, and an object
has properties only. -/
inductive Supported : TypeExpr → Prop
  | keyword (k) : Supported (.keyword k)
  | literal (l) : Supported (.literal l)
  | union {types} (each : ∀ t ∈ types, Supported t) (flat : ∀ t ∈ types, t.isUnion = false) :
      Supported (.union types)
  | array {item} (h : Supported item) : Supported (.array item)
  | object {members}
      (named : ∀ m ∈ members, ∃ name optional type,
        m = .property name optional type ∧ name ≠ .computed)
      (typed : ∀ name optional type, .property name optional (some type) ∈ members →
        Supported type) : Supported (.object members)
  | reference {name arguments} (each : ∀ t ∈ arguments, Supported t) :
      Supported (.reference name arguments)

/-- A type is another one or stands inside of it. -/
inductive IsPart (type : TypeExpr) : TypeExpr → Prop
  | self : IsPart type type
  | union {t types} (h : t ∈ types) (part : IsPart type t) : IsPart type (.union types)
  | array {item} (part : IsPart type item) : IsPart type (.array item)
  | property {name optional t members} (h : .property name optional (some t) ∈ members)
      (part : IsPart type t) : IsPart type (.object members)
  | argument {name t arguments} (h : t ∈ arguments) (part : IsPart type t) :
      IsPart type (.reference name arguments)

theorem IsPart.wellFormed {type whole : TypeExpr} (part : type.IsPart whole)
    (made : whole.WellFormed) : type.WellFormed := by
  induction part with
  | self => exact made
  | union h _ ih =>
      cases made with
      | union _ each => exact ih (each _ h)
  | array _ ih =>
      cases made with
      | array made => exact ih made
  | property h _ ih =>
      cases made with
      | object _ typed => exact ih (typed _ _ _ h)
  | argument h _ ih =>
      cases made with
      | reference _ each => exact ih (each _ h)

end TypeExpr

/-- A declaration in which a type stands. -/
inductive Declaration.Holds (type : TypeExpr) : Declaration → Prop
  | member {name parameters bases members key optional t}
      (h : .property key optional (some t) ∈ members) (part : type.IsPart t) :
      Holds type (.interface name parameters bases members)
  | typeAlias {name parameters t} (part : type.IsPart t) :
      Holds type (.typeAlias name parameters t)

theorem Declaration.Holds.wellFormed {type : TypeExpr} {d : Declaration} (held : d.Holds type)
    (made : d.WellFormed) : type.WellFormed := by
  cases held with
  | member h part => exact part.wellFormed ((made _ h).2 _ rfl)
  | typeAlias part => exact part.wellFormed made

/-! ## What writing keeps -/

/-- A name of a property whose text tells what it is. -/
def PropertyName.Readable : PropertyName → Prop
  | .identifier name => isWordText name.toList = true
  | .string value => nullsStandAlone value.toList = true
  | .number text => text ≠ "inf"
  | .computed => True

/-- A dotted name whose first word has no meaning of its own where it stands. Only a word with an escape
in its source can have one. -/
structure EntityName.Readable (name : EntityName) : Prop where
  words : ∀ part ∈ name.parts, isWordText part.toList = true
  first : ∀ first more, name.parts = first :: more → first ∉ operatorWords ∧ first ≠ "void" ∧
    (first ∉ keywords ∨ first ∈ admittedWords) ∧ (more = [] → wordType? first = none)

/-- A type with no word, string or number in it that is lost in writing. -/
inductive TypeExpr.Readable : TypeExpr → Prop
  | keyword (k) : Readable (.keyword k)
  | string {value : String} (h : nullsStandAlone value.toList = true) :
      Readable (.literal (.string value))
  | number {source : String} (h : IsNumberType source.toList) :
      Readable (.literal (.number source))
  | boolean (value) : Readable (.literal (.boolean value))
  | union {types} (each : ∀ t ∈ types, Readable t) : Readable (.union types)
  | array {item} (h : Readable item) (noAccess : item.isAccessWord = false) :
      Readable (.array item)
  | object {members}
      (named : ∀ name optional type, .property name optional type ∈ members → name.Readable)
      (typed : ∀ name optional type, .property name optional (some type) ∈ members →
        Readable type) : Readable (.object members)
  | reference {name arguments} (named : name.Readable) (each : ∀ t ∈ arguments, Readable t) :
      Readable (.reference name arguments)
  | other (kind source) : Readable (.other kind source)

/-- The name that a finite number gives is a number literal. -/
theorem PropertyName.legible_number {text : String} (made : (PropertyName.number text).WellFormed)
    (finite : text ≠ "inf") : (PropertyName.number text).Legible := by
  obtain ⟨source, rfl⟩ := made
  cases hvalue : Decimal.literalValue source with
  | infinite =>
      rw [hvalue] at finite
      exact absurd rfl finite
  | finite m e =>
      obtain ⟨whole, fraction, positional, -⟩ := (Decimal.shortest m e).isPositional
      refine .number ?_ ?_
      · rw [Decimal.Binary64.text, String.toList_ofList]
        exact isNumber_positional positional
      · have hfinite : Decimal.literalValue source ≠ .infinite := by
          intro h
          rw [hvalue] at h
          cases h
        rw [← hvalue, Decimal.literalValue_text_literalValue hfinite]

theorem PropertyName.Readable.legible {name : PropertyName} (readable : name.Readable)
    (made : name.WellFormed) (named : name ≠ .computed) : name.Legible := by
  cases name with
  | identifier name => exact .identifier readable
  | string value => exact .string readable
  | number text => exact legible_number made readable
  | computed => exact absurd rfl named

theorem EntityName.Readable.legible {name : EntityName} (readable : name.Readable)
    (made : name.parts ≠ []) : name.Legible := by
  obtain ⟨first, more, hparts⟩ := List.exists_cons_of_ne_nil made
  exact ⟨readable.words, first, more, hparts, readable.first first more hparts⟩

/-- The shapes that the grammar makes are legible when nothing in them is lost in writing. -/
theorem TypeExpr.Supported.legible {type : TypeExpr} (supported : type.Supported)
    (made : type.WellFormed) (readable : type.Readable) : type.Legible := by
  induction supported with
  | keyword k => exact .keyword k
  | literal l =>
      cases readable with
      | string h => exact .string h
      | number h => exact .number h
      | boolean value => exact .boolean value
  | @union types each flat ih =>
      cases made with
      | union several made =>
          cases readable with
          | union readable =>
              exact .union several (fun t ht => ih t ht (made t ht) (readable t ht)) flat
  | array h ih =>
      cases made with
      | array made =>
          cases readable with
          | array readable noAccess => exact .array (ih made readable) noAccess
  | @object members named typed ih =>
      cases made with
      | object madeNames made =>
          cases readable with
          | object readableNames readable =>
              refine .object (fun m hm => ?_) fun name optional type h =>
                ih name optional type h (made _ _ _ h) (readable _ _ _ h)
              obtain ⟨name, optional, type, rfl, hname⟩ := named m hm
              exact ⟨name, optional, type, rfl,
                (readableNames _ _ _ hm).legible (madeNames _ _ _ hm) hname⟩
  | reference each ih =>
      cases made with
      | reference hparts made =>
          cases readable with
          | reference named readable =>
              exact .reference (named.legible hparts) fun t ht => ih t ht (made t ht) (readable t ht)

/-- A type of a supported shape that a source text declares is read back from an alias of it. -/
theorem parseModule_alias_of_held {source : String} {declarations : List Declaration}
    (read : parseModule source = .ok declarations) {d : Declaration} (hd : d ∈ declarations)
    {type : TypeExpr} (held : d.Holds type) (supported : type.Supported)
    (readable : type.Readable) :
    parseModule ("type X = " ++ type.text ++ ";") = .ok [.typeAlias "X" [] type] := by
  have made : type.WellFormed := held.wellFormed (parseModule_wellFormed read d hd)
  exact parseModule_typeAlias (supported.legible made readable)

/-- A list of a union, a generic name with a negative number, a string with an escape and a number as
names, inside a property of an interface. -/
theorem parseModule_alias_of_held_box :
    ∃ declarations d, ∃ type : TypeExpr,
      parseModule ("interface Box<T> extends Base \x7b get(): T; part: \x7b " ++
        "'a\\tb'?: (string | '\\x00')[], 0x1_0: ns.Map<-5> \x7d \x7d") = .ok declarations ∧
      d ∈ declarations ∧ d.Holds type ∧ type.Supported ∧ type.Readable ∧
      type.text = "\x7b \"a\\tb\"?: (string | \"\\0\")[]; 16: ns.Map<-5>; \x7d" ∧
      parseModule ("type X = " ++ type.text ++ ";") = .ok [.typeAlias "X" [] type] := by
  let list : TypeExpr := .array (.union [.keyword .string, .literal (.string "\x00")])
  let map : TypeExpr := .reference ⟨["ns", "Map"]⟩ [.literal (.number "-5")]
  let members : List Member :=
    [.property (.string "a\tb") true (some list), .property (.number "16") false (some map)]
  let box : Declaration := .interface "Box" ["T"] ["Base"]
    [.method (.identifier "get"), .property (.identifier "part") false (some (.object members))]
  have read : parseModule ("interface Box<T> extends Base \x7b get(): T; part: \x7b " ++
      "'a\\tb'?: (string | '\\x00')[], 0x1_0: ns.Map<-5> \x7d \x7d") = .ok [box] := by
    decide +kernel
  have held : box.Holds (.object members) :=
    .member (List.mem_cons_of_mem _ (List.mem_singleton_self _)) .self
  have typed {motive : TypeExpr → Prop} (hlist : motive list) (hmap : motive map) :
      ∀ name optional type, .property name optional (some type) ∈ members → motive type := by
    intro name optional type h
    rcases List.mem_cons.mp h with h | h
    · cases h
      exact hlist
    · cases List.mem_singleton.mp h
      exact hmap
  have supported : (TypeExpr.object members).Supported := by
    refine .object ?_ (typed ?_ ?_)
    · intro m hm
      rcases List.mem_cons.mp hm with rfl | hm
      · exact ⟨_, _, _, rfl, by decide⟩
      · cases List.mem_singleton.mp hm
        exact ⟨_, _, _, rfl, by decide⟩
    · exact .array (.union
        (List.forall_mem_cons.mpr ⟨.keyword _, List.forall_mem_singleton.mpr (.literal _)⟩)
        (List.forall_mem_cons.mpr ⟨rfl, List.forall_mem_singleton.mpr rfl⟩))
    · exact .reference (List.forall_mem_singleton.mpr (.literal _))
  have readable : (TypeExpr.object members).Readable := by
    refine .object ?_ (typed ?_ ?_)
    · intro name optional type h
      rcases List.mem_cons.mp h with h | h
      · cases h
        change nullsStandAlone _ = true
        decide
      · cases List.mem_singleton.mp h
        change "16" ≠ "inf"
        decide
    · exact .array (.union (List.forall_mem_cons.mpr
        ⟨.keyword _, List.forall_mem_singleton.mpr (.string (by decide))⟩)) rfl
    · have positional : Decimal.IsPositional ['5'] ['5'] [] :=
        ⟨rfl, by decide, rfl, by decide, .inr (by decide)⟩
      have hfive : IsNumber ['5'] := isNumber_positional positional
      refine .reference ⟨by decide, ?_⟩ (List.forall_mem_singleton.mpr (.number ?_))
      · rintro _ _ ⟨⟩
        decide
      · have hgap : IsGap false [] ['5'] := isGap_pad rfl hfive
        exact .negative hgap hfive
  exact ⟨_, _, _, read, List.mem_singleton_self _, held, supported, readable, by decide +kernel,
    parseModule_alias_of_held read (List.mem_singleton_self _) held supported readable⟩

/-- The string of a null character and a digit is written with an escape that is no string. -/
theorem not_readBack_null :
    parseModule "type X = '\\u\x7b0\x7d1';" =
        .ok [.typeAlias "X" [] (.literal (.string "\x001"))] ∧
      (TypeExpr.literal (.string "\x001")).Supported ∧
      (TypeExpr.literal (.string "\x001")).text = "\"\\01\"" ∧
      parseModule ("type X = " ++ (TypeExpr.literal (.string "\x001")).text ++ ";") ≠
        .ok [.typeAlias "X" [] (.literal (.string "\x001"))] :=
  ⟨by decide +kernel, .literal _, by decide +kernel, by decide +kernel⟩

/-- What else is lost in writing: the size of a number without digits, the escape in a word that
has a meaning, the parentheses of a name that may be a modifier, and the `export` before a fault. -/
example : ∀ lost ∈ [
    ("type X = \x7b 1e400: string \x7d;",
      TypeExpr.object [.property (.number "inf") false (some (.keyword .string))]),
    ("type X = \\u0073tring;", .reference ⟨["string"]⟩ []),
    ("type X = (public)[];", .array (.reference ⟨["public"]⟩ [])),
    ("export type X = \x7b \\u002e: string \x7d;",
      .object [.property (.identifier ".") false (some (.keyword .string))]),
    ("export type X = 1__0;", .literal (.number "1__0"))],
    parseModule lost.1 = .ok [.typeAlias "X" [] lost.2] ∧
      parseModule ("type X = " ++ lost.2.text ++ ";") ≠ .ok [.typeAlias "X" [] lost.2] := by
  decide +kernel

end SchemaGuards
