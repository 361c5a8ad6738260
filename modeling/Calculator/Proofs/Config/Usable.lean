import Calculator.Proofs.Config.Loading
import Calculator.Proofs.Evaluation.Stages
import Calculator.Proofs.Expr.Lexemes
import Calculator.Proofs.Grammar.Nested
import Calculator.Proofs.Registry.Sessions
import Calculator.Proofs.Token.Rendering
import Calculator.Proofs.Toml.DistinctKeys

/-!
# Loaded configurations can be used

The loader, the registry and the lexer each have their own rules for names, and these fit together.
A constant of a configuration that loads has a name that is free in the built-in registry, and that
the lexer reads as one word and does not cut. So the registry of the configuration can be built, has
the constants beside the built-in ones, and each of them, written alone, is evaluated to its value
(`Config.exists_registry_of_loaded`).
-/

set_option autoImplicit false

namespace Calculator

variable {host : Host}

/-! ## A constant alone -/

/-- A name with blanks around it. -/
def surrounded (leading : List Char) (name : String) (trailing : List Char) : String :=
  String.ofList (leading ++ name.toList ++ trailing)

section Alone

variable {v : Vocabulary} {r : Registry} {settings : Settings} {name : String} {value : Float}
  {leading trailing : List Char}

/-- A constant with blanks around it is read as one token with the whole name. -/
theorem Scan.ofSource_surrounded (hleading : ∀ ch ∈ leading, isBlank ch = true)
    (htrailing : ∀ ch ∈ trailing, isBlank ch = true) (hname : IsConstantName v.nameLimit name)
    (hconstant : v.registry.isConstant name = true) :
    ofSource v (surrounded leading name trailing) =
      ⟨[⟨.constant name, leading.length⟩],
        .endOfInput (leading.length + name.length + trailing.length)⟩ := by
  let p : Piece := ⟨leading, .name name.toList hname.1, hleading⟩
  have hlexeme : p.word.lexeme v = .ok (.constant name) :=
    Expr.classify_constant hname.2 hconstant
  have hends : p.word.EndsBefore trailing := by
    intro ch hch
    exact p.word.goesOn_of_isBlank (htrailing ch (List.mem_of_mem_head? hch))
  have hsource : (surrounded leading name trailing).toList = p.chars ++ trailing :=
    String.toList_ofList
  have hreads : Cursor.Reads v (Cursor.ofSource (surrounded leading name trailing))
      [⟨.constant name, leading.length⟩] ⟨p.chars.length, trailing⟩ := by
    refine .cons ?_ (.nil _)
    rw [Cursor.ofSource, hsource, p.read hends, hlexeme, Nat.zero_add, Nat.zero_add]
    rfl
  obtain ⟨pos, after, hend⟩ :=
    (Cursor.read_eq_endOfInput_iff (v := v) (c := ⟨p.chars.length, trailing⟩)).mpr htrailing
  have hpos : pos = leading.length + name.length + trailing.length := by
    rw [((Cursor.at_ofSource _).reads hreads).pos_endOfInput hend, hsource, Piece.chars,
      List.length_append, List.length_append]
    exact congrArg (_ + · + _) String.length_toList
  rw [ofSource_eq hreads (.endOfInput hend), hpos]

/-- A constant opens no levels, so that it is read under any limit. -/
theorem Scan.parse_constant (rules : Rules) (name : String) (pos last : Nat) :
    Scan.parse rules ⟨[⟨.constant name, pos⟩], .endOfInput last⟩ = .ok (.constant name) := by
  have hnests : Nests rules.conventionalPower 0 .expression [.constant name] (.constant name) :=
    (Nests.constant name).expression_of_factor
  have hwhole : Scan.IsWhole ⟨[⟨.constant name, pos⟩], .endOfInput last⟩ :=
    Scan.isWhole_iff.mpr ⟨last, rfl⟩
  have h := hnests.parse_eq hwhole rules.nestingLimit
  rw [exceeds_zero] at h
  exact h

/-- A constant with blanks around it is evaluated to its value. -/
theorem calculate_surrounded (hleading : ∀ ch ∈ leading, isBlank ch = true)
    (htrailing : ∀ ch ∈ trailing, isBlank ch = true)
    (hname : IsConstantName settings.nameLimit name) (hdepth : 1 ≤ settings.depthLimit)
    (hvalue : r.constant? name = some value) :
    calculate host r settings (surrounded leading name trailing) = (.ok value, []) := by
  have hconstant : r.isConstant name = true := by
    rw [← Registry.isSome_constant?, hvalue]
    rfl
  have hscan := Scan.ofSource_surrounded (v := ⟨r, settings.nameLimit⟩) hleading htrailing hname
    hconstant
  have hparse :
      parse host r settings (surrounded leading name trailing) = .ok (.constant name) := by
    unfold parse
    simp only [hscan, Scan.parse_constant]
    split <;> rfl
  have hplain : ∀ limit : Int, 1 ≤ limit →
      evaluatePlainly host r limit 1 (.constant name) = .pure value := by
    intro limit hlimit
    rw [evaluatePlainly, checkDepth_of_le hlimit, Run.pure_bind, constantValue_eq, hvalue]
    rfl
  have hevaluate : evaluate host r settings.depthLimit (.constant name) = .pure value := by
    have hcapacity : 1 ≤ host.depth := Int.le_trans (by decide) host.depthCeiling_le
    rw [evaluate_eq_ite, hplain _ hdepth, hplain _ hcapacity]
    split <;> rfl
  rw [calculate_of_ok hparse, hevaluate]
  rfl

end Alone

/-! ## What is loaded -/

/-- The names of the constants of a document come from its keys. -/
theorem newConstant?_eq_some_iff {entry : String × Toml.Value} {constant : String × Float} :
    newConstant? entry = some constant ↔
      entry.1 = constant.1 ∧ Registry.builtin.isRegistered constant.1 = false ∧
        double? entry.2 = some constant.2 := by
  obtain ⟨name, value⟩ := constant
  unfold newConstant?
  split
  · next hshadow =>
      refine iff_of_false (by simp) ?_
      rintro ⟨rfl, hfree, -⟩
      rw [hshadow] at hfree
      cases hfree
  · next hshadow =>
      rw [Option.map_eq_some_iff]
      constructor
      · rintro ⟨x, hx, heq⟩
        cases heq
        exact ⟨rfl, Bool.not_eq_true _ ▸ hshadow, hx⟩
      · rintro ⟨rfl, -, hx⟩
        exact ⟨value, hx, rfl⟩

namespace Config

/-- What holds of a configuration that loads. -/
structure IsSound (c : Config) : Prop where
  depthLimit : 1 ≤ c.settings.depthLimit
  isName : ∀ name ∈ c.constants.map Prod.fst, IsConstantName c.settings.nameLimit name
  isFree : Registry.builtin.Admits c.constants
  nodup : (c.constants.map Prod.fst).Nodup

theorem isSound_of_ofBytes? {path : String} {content : Option ByteArray} {c : Config}
    {warnings : List LogEntry} (h : ofBytes? host path content = .ok (c, warnings)) :
    c.IsSound := by
  obtain ⟨text, document, -, hread, hload⟩ := ofBytes?_eq_ok_iff.mp h
  have hparse := (Toml.read_eq_ok_iff.mp hread).2
  obtain ⟨entries, hhead, hadmits, hconstants, -⟩ := ofDocument_eq_ok_iff.mp hload
  obtain ⟨engine, display, -, -, htable, hkeys⟩ := head_eq_ok_iff.mp hhead
  have hdistinct : (entries.map Prod.fst).Nodup := by
    rcases htable with ⟨-, rfl⟩ | htable
    · exact List.nodup_nil
    · exact (Toml.Table.hasDistinctKeys_iff.mp
        ((Toml.hasDistinctKeys_of_parse hparse).lookup htable)).nodup
  -- Every constant was made from an entry, whose key is its name.
  have hfrom : ∀ name ∈ c.constants.map Prod.fst,
      Registry.builtin.isRegistered name = false ∧ ∃ value, (name, value) ∈ entries := by
    intro name hname
    obtain ⟨constant, hconstant, rfl⟩ := List.mem_map.mp hname
    rw [hconstants] at hconstant
    obtain ⟨entry, hentry, hnew⟩ := List.mem_filterMap.mp hconstant
    obtain ⟨hname, hfree, -⟩ := newConstant?_eq_some_iff.mp hnew
    exact ⟨hfree, entry.2, hname ▸ hentry⟩
  exact {
    depthLimit := (hkeys.depthLimit.bounds (by decide) (by decide)).1
    isName := by
      intro name hname
      obtain ⟨-, value, hentry⟩ := hfrom name hname
      exact (hadmits _ hentry).isName
    isFree := fun name hname => (hfrom name hname).1
    nodup := by
      rw [hconstants, List.Nodup, List.pairwise_map]
      rw [List.Nodup, List.pairwise_map] at hdistinct
      refine hdistinct.filterMap newConstant? fun entry other hne new hnew new' hnew' heq => hne ?_
      rw [(newConstant?_eq_some_iff.mp hnew).1, (newConstant?_eq_some_iff.mp hnew').1, heq] }

/-! ## The registry -/

/-- A registry that makes the constants of a configuration available. -/
structure IsServedBy (host : Host) (c : Config) (r : Registry) : Prop where
  /-- Without constants the built-in registry serves. -/
  isBuiltin_iff : r = .builtin ↔ c.constants = []
  isConstant_iff : ∀ name, r.isConstant name = true ↔
    Registry.builtin.isConstant name = true ∨ name ∈ c.constants.map Prod.fst
  isFunction_iff : ∀ name, r.isFunction name = true ↔ Registry.builtin.isFunction name = true
  /-- What is built in keeps its meaning. -/
  extends_builtin : r.Extends .builtin
  /-- The lexer reads each name whole. -/
  isRead : ∀ constant ∈ c.constants, ∀ leading trailing, (∀ ch ∈ leading, isBlank ch = true) →
    (∀ ch ∈ trailing, isBlank ch = true) →
    Scan.ofSource ⟨r, c.settings.nameLimit⟩ (surrounded leading constant.1 trailing) =
      ⟨[⟨.constant constant.1, leading.length⟩],
        .endOfInput (leading.length + constant.1.length + trailing.length)⟩
  /-- Each name is evaluated to the value of the configuration. -/
  isEvaluated : ∀ constant ∈ c.constants, ∀ leading trailing, (∀ ch ∈ leading, isBlank ch = true) →
    (∀ ch ∈ trailing, isBlank ch = true) →
    calculate host r c.settings (surrounded leading constant.1 trailing) = (.ok constant.2, [])

/-- A configuration whose constants have different names that are free and can be read is served by
its registry. -/
theorem IsSound.exists_registry {c : Config} (h : c.IsSound) :
    ∃ r, c.registry = .ok r ∧ c.IsServedBy host r := by
  obtain ⟨r, hr⟩ := Registry.exists_withConstants h.isFree
  obtain ⟨-, hconstants, hfunctions⟩ := Registry.withConstants_eq_ok_iff.mp hr
  have hmem : ∀ name, r.isConstant name = true ↔
      Registry.builtin.isConstant name = true ∨ name ∈ c.constants.map Prod.fst := by
    intro name
    rw [Registry.isConstant_iff_mem, Registry.isConstant_iff_mem, hconstants, List.map_append,
      List.mem_append]
  refine ⟨r, (Registry.configured_eq_withConstants c.constants).trans hr, ?_⟩
  exact {
    isBuiltin_iff := by
      constructor
      · intro heq
        rw [heq] at hconstants
        exact List.self_eq_append_right.mp hconstants
      · intro hnone
        rw [hnone, List.append_nil] at hconstants
        exact Registry.eq_of_tables hconstants hfunctions
    isConstant_iff := hmem
    isFunction_iff := fun name => by
      rw [Registry.isFunction_iff_mem, Registry.isFunction_iff_mem, hfunctions]
    extends_builtin := Registry.extends_withConstants hr
    isRead := by
      intro constant hconstant leading trailing hleading htrailing
      have hname : constant.1 ∈ c.constants.map Prod.fst := List.mem_map_of_mem hconstant
      exact Scan.ofSource_surrounded hleading htrailing (h.isName _ hname)
        ((hmem _).mpr (Or.inr hname))
    isEvaluated := by
      intro constant hconstant leading trailing hleading htrailing
      have hname : constant.1 ∈ c.constants.map Prod.fst := List.mem_map_of_mem hconstant
      have hvalue : r.constant? constant.1 = some constant.2 := by
        rw [Registry.constant?_withConstants hr,
          (Registry.not_found_of_not_registered (h.isFree _ hname)).1, Option.none_or]
        exact lookup_eq_some_of_mem h.nodup hconstant
      exact calculate_surrounded hleading htrailing (h.isName _ hname) h.depthLimit hvalue }

/-- A configuration that loads can be used: its registry can be built, and serves it. -/
theorem exists_registry_of_loaded {host : Host} {path : String} {content : Option ByteArray}
    {c : Config} {warnings : List LogEntry}
    (h : ofBytes? host path content = .ok (c, warnings)) :
    ∃ r, c.registry = .ok r ∧ c.IsServedBy host r :=
  (isSound_of_ofBytes? h).exists_registry

/-- A configuration with a short limit for names, a constant that is left out, and constants that
are no numbers or infinite. -/
theorem exists_registry_three_constants :
    ∃ c warnings,
      ofBytes? .standard "scicalc.toml" (some
        ("[engine]\nname_max_length = 4\n[constants]\npi = 3\ntau2 = 6.28\n" ++
          "most = inf\nnone = nan\n").toUTF8) = .ok (c, warnings) ∧
      c.constants.map Prod.fst = ["tau2", "most", "none"] ∧
      ∃ r, c.registry = .ok r ∧ c.IsServedBy .standard r := by
  let text := "[engine]\nname_max_length = 4\n[constants]\npi = 3\ntau2 = 6.28\n" ++
    "most = inf\nnone = nan\n"
  have hnames : (ofText .standard "scicalc.toml" text).toOption.map (fun loaded =>
      loaded.1.constants.map Prod.fst) = some ["tau2", "most", "none"] := by
    decide +kernel
  cases hload : ofText .standard "scicalc.toml" text with
  | error failure =>
      rw [hload] at hnames
      cases hnames
  | ok loaded =>
      rw [hload] at hnames
      obtain ⟨c, warnings⟩ := loaded
      have hfile : ofBytes? .standard "scicalc.toml" (some text.toUTF8) = .ok (c, warnings) :=
        (ofBytes?_toUTF8 .standard "scicalc.toml" text).trans hload
      exact ⟨c, warnings, hfile, Option.some.inj hnames, exists_registry_of_loaded hfile⟩

end Config

end Calculator
