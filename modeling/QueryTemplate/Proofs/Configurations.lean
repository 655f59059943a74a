import Mathlib.Data.List.DropRight
import QueryTemplate.Config.Basic
import QueryTemplate.Proofs.References

/-!
# Configurations of documents

A document gives a version and a skip text, which the keys may leave out. It is a configuration when
the skip text has an expansion, the version is supported, and the expansion is read as JSON. Any
other document is refused for the first of these that fails.
-/

namespace QueryTemplate

section

variable {ε ε' α β : Type} {x : Except ε α} {f : α → Except ε β} {g : ε → ε'} {a : α} {b : β}
  {e : ε} {e' : ε'}

lemma error_bind : (Except.error e >>= f) = .error e := rfl

lemma ok_bind : (Except.ok a >>= f) = f a := rfl

lemma bind_eq_ok_iff : (x >>= f) = .ok b ↔ ∃ a, x = .ok a ∧ f a = .ok b := by
  cases x with
  | error e => simp [error_bind]
  | ok a =>
    refine ⟨fun h => ⟨a, rfl, h⟩, ?_⟩
    rintro ⟨_, ⟨⟩, h⟩
    exact h

lemma bind_eq_error_iff :
    (x >>= f) = .error e ↔ x = .error e ∨ ∃ a, x = .ok a ∧ f a = .error e := by
  cases x with
  | error e' => simp [error_bind]
  | ok a =>
    refine ⟨fun h => .inr ⟨a, rfl, h⟩, ?_⟩
    rintro (⟨⟨⟩⟩ | ⟨_, ⟨⟩, h⟩)
    exact h

lemma mapError_eq_ok_iff : x.mapError g = .ok a ↔ x = .ok a := by
  cases x <;> simp [Except.mapError]

lemma mapError_eq_error_iff : x.mapError g = .error e' ↔ ∃ e, x = .error e ∧ e' = g e := by
  cases x <;> simp [Except.mapError, eq_comm]

end

/-! ### Trimmed text -/

section

variable {p : Char → Bool} {cs ds : List Char}

lemma dropWhile_eq_iff : cs.dropWhile p = ds ↔
    ∃ front, cs = front ++ ds ∧ (∀ c ∈ front, p c = true) ∧ ∀ c ∈ ds.head?, ¬p c = true := by
  constructor
  · rintro rfl
    refine ⟨cs.takeWhile p, List.takeWhile_append_dropWhile.symm, ?_, ?_⟩
    · exact fun c hc => List.mem_takeWhile_imp hc
    · intro c hc
      have hnot := List.head?_dropWhile_not p cs
      rw [Option.mem_def.1 hc] at hnot
      simpa using hnot
  · rintro ⟨front, rfl, hfront, hhead⟩
    rw [List.dropWhile_append_of_pos hfront]
    cases ds with
    | nil => rfl
    | cons d ds => exact List.dropWhile_cons_of_neg (hhead d rfl)

lemma rdropWhile_eq_iff : cs.rdropWhile p = ds ↔
    ∃ ends, cs = ds ++ ends ∧ (∀ c ∈ ends, p c = true) ∧ ∀ c ∈ ds.getLast?, ¬p c = true := by
  rw [List.rdropWhile, List.reverse_eq_iff, dropWhile_eq_iff, List.head?_reverse]
  constructor
  · rintro ⟨front, hcs, hfront, hlast⟩
    refine ⟨front.reverse, ?_, fun c hc => hfront c (List.mem_reverse.1 hc), hlast⟩
    rw [← List.reverse_reverse cs, hcs, List.reverse_append, List.reverse_reverse]
  · rintro ⟨ends, rfl, hends, hlast⟩
    exact ⟨ends.reverse, List.reverse_append, fun c hc => hends c (List.mem_reverse.1 hc), hlast⟩

lemma Text.trim_eq_rdropWhile (cs : List Char) :
    Text.trim cs = (cs.dropWhile Text.isBlank).rdropWhile Text.isBlank := rfl

lemma Text.trim_eq_nil_iff : Text.trim cs = [] ↔ ∀ c ∈ cs, Text.isBlank c = true := by
  rw [trim_eq_rdropWhile, List.rdropWhile_eq_nil_iff]
  constructor
  · intro h c hc
    rw [← List.takeWhile_append_dropWhile (p := Text.isBlank) (l := cs), List.mem_append] at hc
    exact hc.elim (fun hc => List.mem_takeWhile_imp hc) (h c)
  · exact fun h c hc => h c (List.dropWhile_subset _ hc)

lemma Text.trim_eq_singleton_iff {c : Char} (hc : ¬Text.isBlank c = true) :
    Text.trim cs = [c] ↔ ∃ left right, cs = left ++ c :: right ∧
      ∀ d ∈ left ++ right, Text.isBlank d = true := by
  rw [trim_eq_rdropWhile, rdropWhile_eq_iff]
  simp only [dropWhile_eq_iff]
  constructor
  · rintro ⟨right, ⟨left, rfl, hleft, -⟩, hright, -⟩
    exact ⟨left, right, rfl, fun d hd => (List.mem_append.1 hd).elim (hleft d) (hright d)⟩
  · rintro ⟨left, right, rfl, h⟩
    refine ⟨right, ⟨left, rfl, ?_, ?_⟩, ?_, ?_⟩
    · exact fun d hd => h d (List.mem_append_left _ hd)
    · rintro d ⟨⟩
      exact hc
    · exact fun d hd => h d (List.mem_append_right _ hd)
    · rintro d ⟨⟩
      exact hc

end

/-! ### Settings of a document -/

namespace Toml

/-- A number without a value stands in a value. -/
inductive HoldsValueless : Toml → Prop where
  | here : HoldsValueless .valueless
  | item {ofTables : Bool} {items : List Toml} {v : Toml} :
      v ∈ items → HoldsValueless v → HoldsValueless (.array ofTables items)
  | entry {origin : Origin} {entries : Entries} {key : String} {v : Toml} :
      (key, v) ∈ entries → HoldsValueless v → HoldsValueless (.table origin entries)

mutual

lemma isValued_iff : (v : Toml) → (v.isValued = true ↔ ¬v.HoldsValueless)
  | .valueless => ⟨fun h => (by cases h), fun h => absurd .here h⟩
  | .array ofTables items => by
    rw [isValued, areValued_iff items]
    constructor
    · rintro h (_ | ⟨hv, hin⟩ | _)
      exact h _ hv hin
    · exact fun h v hv hin => h (.item hv hin)
  | .table origin entries => by
    rw [isValued, haveValues_iff entries]
    constructor
    · rintro h (_ | _ | ⟨hv, hin⟩)
      exact h _ hv hin
    · exact fun h m hm hin => h (.entry hm hin)
  | .string _ | .integer _ | .float _ | .boolean _ | .date _ =>
    ⟨fun _ h => (by cases h), fun _ => rfl⟩

lemma areValued_iff : (items : List Toml) →
    (areValued items = true ↔ ∀ v ∈ items, ¬v.HoldsValueless)
  | [] => by simp [areValued]
  | v :: items => by
    rw [areValued, Bool.and_eq_true, isValued_iff v, areValued_iff items, List.forall_mem_cons]

lemma haveValues_iff : (entries : List (String × Toml)) →
    (haveValues entries = true ↔ ∀ m ∈ entries, ¬m.2.HoldsValueless)
  | [] => by simp [haveValues]
  | (key, v) :: entries => by
    rw [haveValues, Bool.and_eq_true, isValued_iff v, haveValues_iff entries,
      List.forall_mem_cons]

end

lemma find?_eq_lookup (key : String) (entries : Entries) :
    find? key entries = entries.lookup key := by
  induction entries with
  | nil => rfl
  | cons m entries ih =>
    rw [find?, List.lookup_cons, ih]
    by_cases hk : m.1 = key
    · simp [hk]
    · rw [if_neg hk, beq_false_of_ne (Ne.symm hk)]

end Toml

namespace Config

/-- A value names the dialect of MySQL, or is a table of that name with nothing in it. -/
inductive NamesMysql : Toml → Prop where
  | name : NamesMysql (.string "mysql")
  | table {origin inner : Toml.Origin} :
      NamesMysql (.table origin [("mysql", .table inner [])])
  | array {origin : Toml.Origin} {ofTables : Bool} :
      NamesMysql (.table origin [("mysql", .array ofTables [])])

/-- The skip text that the settings of rendering give; both of them may be left out. -/
def SettingsGive (dialect skip : Option Toml) (text : String) : Prop :=
  (∀ v ∈ dialect, NamesMysql v) ∧ (skip = none ∧ text = "null" ∨ skip = some (.string text))

/-- The skip text that the value of the key for rendering gives. The settings in an array are known
by their positions, and a date has none of them. -/
inductive RenderGives : Option Toml → String → Prop where
  | missing : RenderGives none "null"
  | date {date : String} : RenderGives (some (.date date)) "null"
  | table {origin : Toml.Origin} {fields : Toml.Entries} {text : String} :
      SettingsGive (fields.lookup "escaper") (fields.lookup "skip") text →
      RenderGives (some (.table origin fields)) text
  | array {ofTables : Bool} {fields : List Toml} {text : String} :
      SettingsGive fields[0]? fields[1]? text → RenderGives (some (.array ofTables fields)) text

/-- The version and the skip text that a document gives. No number in it is without a value, except
in an array of settings, behind them. -/
structure Gives (entries : Toml.Entries) (version skip : String) : Prop where
  version : entries.lookup "version" = some (.string version)
  render : RenderGives (entries.lookup "render") skip
  valued : ∀ key v, (key, v) ∈ entries → v.HoldsValueless →
    key = "render" ∧ ∃ ofTables items, v = .array ofTables items

variable {entries : Toml.Entries} {version skip text : String} {dialect settings : Option Toml}
  {config : Config}

lemma mk_eq_iff {d : Dialect} :
    ⟨version, d, skip⟩ = config ↔ config.version = version ∧ config.skip = skip := by
  cases d
  obtain ⟨v, _ | _, s⟩ := config
  simp [eq_comm]

lemma dialectOf?_eq_some_iff {v : Toml} {d : Dialect} : dialectOf? v = some d ↔ NamesMysql v := by
  cases d
  constructor
  · intro h
    rw [dialectOf?.eq_def] at h
    split at h
    · split at h
      · subst_vars
        exact .name
      · cases h
    · split at h
      · subst_vars
        exact .table
      · cases h
    · split at h
      · subst_vars
        exact .array
      · cases h
    · cases h
  · rintro (_ | _ | _) <;> rfl

lemma stringOf?_eq_some_iff {v : Toml} : stringOf? v = some text ↔ v = .string text := by
  cases v <;> simp [stringOf?]

lemma ofFields?_eq_some_iff :
    ofFields? version dialect settings = some config ↔
      SettingsGive dialect settings config.skip ∧ config.version = version := by
  unfold ofFields? SettingsGive
  cases dialect with
  | none =>
    cases settings with
    | none => simp [default, mk_eq_iff, and_comm]
    | some s =>
      simp [default, mk_eq_iff, Option.bind_eq_some_iff, stringOf?_eq_some_iff, and_comm]
  | some v =>
    cases settings with
    | none =>
      simp [default, mk_eq_iff, Option.bind_eq_some_iff, dialectOf?_eq_some_iff]
      tauto
    | some s =>
      simp [mk_eq_iff, Option.bind_eq_some_iff, stringOf?_eq_some_iff, dialectOf?_eq_some_iff]
      tauto

lemma isReadable_iff {key : String} {v : Toml} : isReadable (key, v) = true ↔
    (v.HoldsValueless → key = "render" ∧ ∃ ofTables items, v = .array ofTables items) := by
  cases v with
  | array ofTables items =>
    have hitems := Toml.isValued_iff (.array ofTables items)
    rw [Toml.isValued] at hitems
    rw [isReadable, Bool.or_eq_true, hitems, beq_iff_eq]
    simp [or_iff_not_imp_right]
  | _ => simp [isReadable, Toml.isValued_iff]

lemma ofToml?_eq_some_iff :
    ofToml? entries = some config ↔ Gives entries config.version config.skip := by
  have hread : entries.all isReadable = true ↔ ∀ key v, (key, v) ∈ entries → v.HoldsValueless →
      key = "render" ∧ ∃ ofTables items, v = .array ofTables items := by
    simp only [List.all_eq_true, Prod.forall, isReadable_iff]
  simp only [ofToml?, Toml.find?_eq_lookup, Option.bind_eq_bind, Option.bind_eq_some_iff,
    stringOf?_eq_some_iff]
  constructor
  · rintro ⟨_, hversion, version, rfl, h⟩
    split at h
    · cases h
    · rename_i hall
      have hvalued := hread.1 (by simpa using hall)
      split at h
      · rename_i hrender
        cases h
        exact ⟨hversion, hrender ▸ .missing, hvalued⟩
      · rename_i hrender
        cases h
        exact ⟨hversion, hrender ▸ .date, hvalued⟩
      · rename_i hrender
        obtain ⟨hsettings, rfl⟩ := ofFields?_eq_some_iff.1 h
        exact ⟨hversion, hrender ▸ .table hsettings, hvalued⟩
      · rename_i hrender
        obtain ⟨hsettings, rfl⟩ := ofFields?_eq_some_iff.1 h
        exact ⟨hversion, hrender ▸ .array hsettings, hvalued⟩
      · cases h
  · obtain ⟨version, _ | _, skip⟩ := config
    rintro ⟨hversion, hrender, hvalued⟩
    refine ⟨_, hversion, version, rfl, ?_⟩
    rw [hread.2 hvalued]
    generalize entries.lookup "render" = settings at hrender ⊢
    cases hrender with
    | missing => rfl
    | date => rfl
    | table h => exact ofFields?_eq_some_iff.2 ⟨h, rfl⟩
    | array h => exact ofFields?_eq_some_iff.2 ⟨h, rfl⟩

/-! ### Configurations -/

/-- The version is 1, with blanks around it or without. -/
def IsSupported (version : String) : Prop :=
  ∃ left right, version.toList = left ++ '1' :: right ∧
    ∀ c ∈ left ++ right, Text.isBlank c = true

def IsBlank (text : String) : Prop := ∀ c ∈ text.toList, Text.isBlank c = true

/-- The version that a document gives, and the expansion of its skip text. -/
def Supplies (parsers : Parsers) (env : Environment) (text version skip : String) : Prop :=
  ∃ entries raw, parsers.toml text = .ok entries ∧ Gives entries version raw ∧
    Expansion.Expands env raw.toList skip.toList

/-- A document is a configuration. -/
structure Accepts (parsers : Parsers) (env : Environment) (text : String) (config : Config) :
    Prop where
  supplies : Supplies parsers env text config.version config.skip
  supported : IsSupported config.version
  notBlank : ¬IsBlank config.skip
  isJson : ∃ j, parsers.json config.skip = some j

/-- Why a document is no configuration. The first cause counts: what stands behind it in the order of
the cases is not looked at. -/
inductive Refuses (parsers : Parsers) (env : Environment) (text : String) : Error → Prop where
  | malformed : parsers.toml text = .error .malformed → Refuses parsers env text .notToml
  | keyTooLong : parsers.toml text = .error .keyTooLong → Refuses parsers env text .keyTooLong
  | settings {entries : Toml.Entries} : parsers.toml text = .ok entries →
      (∀ version skip, ¬Gives entries version skip) → Refuses parsers env text .notToml
  | reference {entries : Toml.Entries} {version skip : String} {e : Expansion.Error}
      {before out fault rest : List Char} : parsers.toml text = .ok entries →
      Gives entries version skip → Expansion.Expands env before out →
      Expansion.Faulty env fault rest e → skip.toList = before ++ (fault ++ rest) →
      Refuses parsers env text (.expansion e)
  | version {version skip : String} : Supplies parsers env text version skip →
      ¬IsSupported version → Refuses parsers env text (.unsupportedVersion version)
  | blankSkip {version skip : String} : Supplies parsers env text version skip →
      IsSupported version → IsBlank skip → Refuses parsers env text .emptySkip
  | invalidSkip {version skip : String} : Supplies parsers env text version skip →
      IsSupported version → ¬IsBlank skip → parsers.json skip = none →
      Refuses parsers env text (.invalidSkip skip)

variable {parsers : Parsers} {env : Environment} {raw : String} {e : Error}

lemma isSupported_iff : IsSupported version ↔ Text.trim version.toList = ['1'] :=
  (Text.trim_eq_singleton_iff (by decide)).symm

lemma isBlank_iff : IsBlank text ↔ (Text.trim text.toList).isEmpty = true := by
  rw [List.isEmpty_iff, Text.trim_eq_nil_iff, IsBlank]

lemma check_of_not_isSupported (h : ¬IsSupported config.version) :
    config.check parsers = .error (.unsupportedVersion config.version) := by
  rw [isSupported_iff] at h
  rw [check, if_pos h]
  rfl

lemma check_of_isBlank (h : IsSupported config.version) (hblank : IsBlank config.skip) :
    config.check parsers = .error .emptySkip := by
  rw [isSupported_iff] at h
  rw [check, if_neg (not_not.2 h), if_pos (isBlank_iff.1 hblank)]
  rfl

lemma check_of_not_isBlank (h : IsSupported config.version) (hblank : ¬IsBlank config.skip) :
    config.check parsers = (config.skipValue parsers).map fun _ => () := by
  rw [isSupported_iff] at h
  rw [check, if_neg (not_not.2 h), if_neg (mt isBlank_iff.2 hblank)]
  cases config.skipValue parsers <;> rfl

lemma skipValue_of_isJson {j : Json} (h : parsers.json config.skip = some j) :
    config.skipValue parsers = .ok j.toValue := by
  rw [skipValue, Value.ofJson?, h]
  rfl

lemma skipValue_of_not_isJson (h : parsers.json config.skip = none) :
    config.skipValue parsers = .error (.invalidSkip config.skip) := by
  rw [skipValue, Value.ofJson?, h]
  rfl

/-- The default has a supported version and a skip text that is read as JSON. -/
lemma check_default (h : parsers.json "null" = some .null) : default.check parsers = .ok () := by
  have hblank : ¬IsBlank default.skip := by
    rw [isBlank_iff]
    decide
  have hversion : IsSupported default.version := isSupported_iff.2 (by decide)
  rw [check_of_not_isBlank hversion hblank, skipValue_of_isJson h]
  rfl

lemma ofText_of_gives (hread : parsers.toml text = .ok entries) (h : Gives entries version raw) :
    ofText parsers env text =
      ((Expansion.expand env raw).mapError .expansion).bind fun skip =>
        ((⟨version, .mysql, skip⟩ : Config).check parsers).map fun _ => ⟨version, .mysql, skip⟩ := by
  have hraw : ofToml? entries = some ⟨version, .mysql, raw⟩ := ofToml?_eq_some_iff.2 h
  rw [ofText, hread, Except.map, hraw]
  cases hskip : Expansion.expand env raw with
  | error e =>
    simp only [hskip, Except.mapError]
    rfl
  | ok skip =>
    simp only [hskip, Except.mapError, Except.bind, ok_bind]
    cases check parsers ⟨version, .mysql, skip⟩ <;> rfl

lemma ofText_of_supplies (h : Supplies parsers env text version skip) :
    ofText parsers env text =
      ((⟨version, .mysql, skip⟩ : Config).check parsers).map fun _ => ⟨version, .mysql, skip⟩ := by
  obtain ⟨entries, raw, hread, hgives, hexpands⟩ := h
  rw [ofText_of_gives hread hgives, Expansion.expand_eq_ok_iff.2 hexpands]
  rfl

lemma Accepts.ofText_eq (h : Accepts parsers env text config) :
    ofText parsers env text = .ok config := by
  obtain ⟨version, _ | _, skip⟩ := config
  obtain ⟨j, hj⟩ := h.isJson
  rw [ofText_of_supplies h.supplies, check_of_not_isBlank h.supported h.notBlank,
    skipValue_of_isJson hj]
  rfl

lemma Refuses.ofText_eq (h : Refuses parsers env text e) : ofText parsers env text = .error e := by
  cases h with
  | malformed hread =>
    rw [ofText, hread]
    rfl
  | keyTooLong hread =>
    rw [ofText, hread]
    rfl
  | settings hread hnone =>
    have hraw : ofToml? _ = none :=
      Option.eq_none_iff_forall_ne_some.2 fun config h => hnone _ _ (ofToml?_eq_some_iff.1 h)
    rw [ofText, hread, Except.map, hraw]
  | reference hread hgives hbefore hfault hskip =>
    rw [ofText_of_gives hread hgives,
      Expansion.expand_eq_error_iff.2 ⟨_, _, _, _, hbefore, hfault, hskip⟩]
    rfl
  | version hsupplies hversion =>
    rw [ofText_of_supplies hsupplies, check_of_not_isSupported hversion]
    rfl
  | blankSkip hsupplies hversion hblank =>
    rw [ofText_of_supplies hsupplies, check_of_isBlank hversion hblank]
    rfl
  | invalidSkip hsupplies hversion hblank hjson =>
    rw [ofText_of_supplies hsupplies, check_of_not_isBlank hversion hblank,
      skipValue_of_not_isJson hjson]
    rfl

/-- Every document is a configuration, or there is a cause why it is none. -/
lemma accepts_or_refuses (parsers : Parsers) (env : Environment) (text : String) :
    (∃ config, Accepts parsers env text config) ∨ ∃ e, Refuses parsers env text e := by
  cases hread : parsers.toml text with
  | error fault =>
    cases fault with
    | malformed => exact .inr ⟨_, .malformed hread⟩
    | keyTooLong => exact .inr ⟨_, .keyTooLong hread⟩
  | ok entries =>
    -- From here on in the order of the checks: the references come before the version, and the
    -- version before the skip text.
    by_cases hgives : ∃ version raw, Gives entries version raw
    · obtain ⟨version, raw, hgives⟩ := hgives
      rcases Expansion.exists_expands_or_faulty env raw.toList with ⟨skip, hexpands⟩ |
        ⟨before, out, fault, rest, e, hbefore, hfault, hraw⟩
      · have hsupplies : Supplies parsers env text version (String.ofList skip) :=
          ⟨entries, raw, hread, hgives, by rwa [String.toList_ofList]⟩
        by_cases hversion : IsSupported version
        · by_cases hblank : IsBlank (String.ofList skip)
          · exact .inr ⟨_, .blankSkip hsupplies hversion hblank⟩
          · cases hjson : parsers.json (String.ofList skip) with
            | none => exact .inr ⟨_, .invalidSkip hsupplies hversion hblank hjson⟩
            | some j =>
              exact .inl ⟨⟨version, .mysql, _⟩, hsupplies, hversion, hblank, j, hjson⟩
        · exact .inr ⟨_, .version hsupplies hversion⟩
      · exact .inr ⟨_, .reference hread hgives hbefore hfault hraw⟩
    · exact .inr ⟨_, .settings hread fun version raw h => hgives ⟨version, raw, h⟩⟩

theorem ofText_eq_ok_iff : ofText parsers env text = .ok config ↔ Accepts parsers env text config := by
  constructor
  · intro h
    rcases accepts_or_refuses parsers env text with ⟨config', hconfig⟩ | ⟨e, he⟩
    · obtain rfl : config = config' := Except.ok.inj (h.symm.trans hconfig.ofText_eq)
      exact hconfig
    · cases h.symm.trans he.ofText_eq
  · exact Accepts.ofText_eq

theorem ofText_eq_error_iff : ofText parsers env text = .error e ↔ Refuses parsers env text e := by
  constructor
  · intro h
    rcases accepts_or_refuses parsers env text with ⟨config, hconfig⟩ | ⟨e', he⟩
    · cases h.symm.trans hconfig.ofText_eq
    · obtain rfl : e = e' := Except.error.inj (h.symm.trans he.ofText_eq)
      exact he
  · exact Refuses.ofText_eq

end Config

end QueryTemplate
