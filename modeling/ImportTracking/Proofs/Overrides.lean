import ImportTracking.Proofs.Numerals
import Mathlib.Algebra.Group.Nat.Defs
import Mathlib.Logic.Function.Basic

/-!
# Overrides — what an environment makes of the settings

Every setting has a variable of its own.  The setting depends on that variable alone, whatever the
other variables hold, be it valid or not.  A setting that is a number is overridden by the number
that its variable denotes, and by nothing else.

* `agrees_of_ofEnvironment`: a setting is the same in any two environments with the same value of
  its variable.
* `getD_natural?`: a number overrides the default exactly when the variable is set to a text that
  denotes it, and there is room for it.
* `ofEnvironment_exact`: so the overrides are exact and independent, and every number that there is
  room for can be set, in any way to write it.
-/

namespace ImportTracking

/-! ### Variables -/

namespace Environment

variable {env : Environment} {name : String} {s : String} {bound limit n : Nat} {α : Type}
  {form : Nat → α} {default x : α}

/-- The bytes of a text, in UTF-8. -/
def bytes (s : String) : List UInt8 := s.toUTF8.data.toList

/-- The environment with a variable set to a text. -/
def set (env : Environment) (name s : String) : Environment :=
  Function.update env name (some (bytes s))

/-- A variable is set to a text that denotes a number below a bound. -/
def Gives (env : Environment) (name : String) (bound n : Nat) : Prop :=
  ∃ s : String, env name = some (bytes s) ∧ Text.Denotes s.toList n ∧ n < bound

/-- What becomes of a setting: the number that its variable gives, in the form of the setting, and
the default if it gives none. -/
inductive Overridden (env : Environment) (name : String) (bound : Nat) (form : Nat → α)
    (default : α) : α → Prop
  | given {n : Nat} (h : env.Gives name bound n) : Overridden env name bound form default (form n)
  | kept (h : ∀ n, ¬ env.Gives name bound n) : Overridden env name bound form default default

/-- The text of a variable is the one whose bytes it holds. -/
theorem text?_eq_some_iff : env.text? name = some s ↔ env name = some (bytes s) := by
  rw [text?, Option.bind_eq_some_iff]
  constructor
  · rintro ⟨bs, hbs, hs⟩
    rw [String.fromUTF8?, Option.dite_none_right_eq_some] at hs
    obtain ⟨hvalid, hs⟩ := hs
    rw [hbs, ← Option.some.inj hs]
    rfl
  · intro h
    refine ⟨_, h, ?_⟩
    rw [String.fromUTF8?, Option.dite_none_right_eq_some]
    exact ⟨s.isValidUTF8, rfl⟩

/-- **A variable is read** as the number that it gives. -/
theorem natural?_eq_some_iff :
    env.natural? limit name = some n ↔ env.Gives name (limit + 1) n := by
  rw [natural?, Option.bind_eq_some_iff]
  refine exists_congr fun s => ?_
  rw [text?_eq_some_iff, Text.natural?_trim, Nat.lt_succ_iff]

theorem natural?_eq_none_iff :
    env.natural? limit name = none ↔ ∀ n, ¬ env.Gives name (limit + 1) n := by
  simp only [← natural?_eq_some_iff]
  exact Option.eq_none_iff_forall_ne_some

/-- **A setting is overridden** by what its variable is read as. -/
theorem getD_natural? :
    ((env.natural? limit name).map form).getD default = x ↔
      env.Overridden name (limit + 1) form default x := by
  cases h : env.natural? limit name with
  | none =>
      have hnone := natural?_eq_none_iff.mp h
      constructor
      · rintro rfl
        exact .kept hnone
      · rintro (hgiven | -)
        · exact absurd hgiven (hnone _)
        · rfl
  | some n =>
      have hgives := natural?_eq_some_iff.mp h
      constructor
      · rintro rfl
        exact .given hgives
      · rintro (hgiven | hnone)
        · rw [← natural?_eq_some_iff, h] at hgiven
          rw [Option.some.inj hgiven]
          rfl
        · exact absurd hgives (hnone n)

theorem gives_set (h : Text.Denotes s.toList n) (hn : n < bound) :
    (env.set name s).Gives name bound n :=
  ⟨s, Function.update_self .., h, hn⟩

end Environment

/-! ### Settings -/

namespace Settings

/-- The settings that are lengths of time. -/
inductive Period where
  | reEnqueueDelay
  | deferralDelay
  | emptyExportTimeout
  | leaseTimeout
deriving DecidableEq, Repr

/-- The settings, each of them. -/
inductive Field where
  | period (p : Period)
  | leaseKeyPrefix
  | maxRetries
  | deferralEnabled
  | defaultSchema
  | defaultTables
deriving DecidableEq, Repr

/-- A length of time among the settings. -/
def Period.of : Period → Settings → Duration
  | .reEnqueueDelay, s => s.reEnqueueDelay
  | .deferralDelay, s => s.deferralDelay
  | .emptyExportTimeout, s => s.emptyExportTimeout
  | .leaseTimeout, s => s.leaseTimeout

/-- What kind of value a setting has. -/
def Field.Value : Field → Type
  | .period _ => Duration
  | .leaseKeyPrefix => String
  | .maxRetries => Nat
  | .deferralEnabled => Bool
  | .defaultSchema => String
  | .defaultTables => List String

/-- The value of a setting. -/
def Field.of : (f : Field) → Settings → f.Value
  | .period p, s => p.of s
  | .leaseKeyPrefix, s => s.leaseKeyPrefix
  | .maxRetries, s => s.maxRetries
  | .deferralEnabled, s => s.deferralEnabled
  | .defaultSchema, s => s.defaultSchema
  | .defaultTables, s => s.defaultTables

/-- The variable that overrides a setting. -/
def Field.variable : Field → String
  | .period .reEnqueueDelay => "BULK_IMPORT_RE_ENQUEUE_DELAY_SECS"
  | .period .deferralDelay => "BULK_IMPORT_DEFER_ON_HEALTH_DELAY_SECS"
  | .period .emptyExportTimeout => "BULK_IMPORT_EMPTY_EXPORT_TIMEOUT_SECS"
  | .period .leaseTimeout => "BULK_IMPORT_LEASE_TIMEOUT_SECS"
  | .leaseKeyPrefix => "BULK_IMPORT_LEASE_KEY_PREFIX"
  | .maxRetries => "BULK_IMPORT_MAX_RUNTIME_RETRIES"
  | .deferralEnabled => "BULK_IMPORT_DEFER_ON_HEALTH"
  | .defaultSchema => "BULK_IMPORT_HEALTH_SCHEMA"
  | .defaultTables => "BULK_IMPORT_HEALTH_TABLES"

variable {env env' : Environment} {f g : Field} {p : Period} {s : String} {n : Nat}

/-- Settings that agree on every field are the same. -/
theorem ext_of {a b : Settings} (h : ∀ f : Field, f.of a = f.of b) : a = b := by
  have hre : a.reEnqueueDelay = b.reEnqueueDelay := h (.period .reEnqueueDelay)
  have hdefer : a.deferralDelay = b.deferralDelay := h (.period .deferralDelay)
  have hempty : a.emptyExportTimeout = b.emptyExportTimeout := h (.period .emptyExportTimeout)
  have hlease : a.leaseTimeout = b.leaseTimeout := h (.period .leaseTimeout)
  have hprefix : a.leaseKeyPrefix = b.leaseKeyPrefix := h .leaseKeyPrefix
  have hretries : a.maxRetries = b.maxRetries := h .maxRetries
  have henabled : a.deferralEnabled = b.deferralEnabled := h .deferralEnabled
  have hschema : a.defaultSchema = b.defaultSchema := h .defaultSchema
  have htables : a.defaultTables = b.defaultTables := h .defaultTables
  cases a
  cases b
  congr

/-- Every setting, in the order of its declaration. -/
def Field.all : List Field :=
  [.period .reEnqueueDelay, .period .deferralDelay, .period .emptyExportTimeout,
    .period .leaseTimeout, .leaseKeyPrefix, .maxRetries, .deferralEnabled, .defaultSchema,
    .defaultTables]

theorem Field.mem_all (f : Field) : f ∈ Field.all := by
  cases f with
  | period p => cases p <;> decide
  | _ => decide

/-- No two settings have the same variable. -/
theorem Field.variable_injective : Function.Injective Field.variable := by
  have hall : ∀ f ∈ Field.all, ∀ g ∈ Field.all, f.variable = g.variable → f = g := by decide
  intro f g h
  exact hall f f.mem_all g g.mem_all h

/-- A setting is what it would be if every variable held the same as its own. -/
theorem of_ofEnvironment (f : Field) (env : Environment) :
    f.of (ofEnvironment env) = f.of (ofEnvironment fun _ => env f.variable) := by
  cases f with
  | period p => cases p <;> rfl
  | _ => rfl

/-- **A setting depends on its own variable** alone. -/
theorem agrees_of_ofEnvironment (h : env f.variable = env' f.variable) :
    f.of (ofEnvironment env) = f.of (ofEnvironment env') := by
  rw [of_ofEnvironment f env, of_ofEnvironment f env', h]

/-- What another variable is set to makes no difference. -/
theorem of_ofEnvironment_update (hfg : f ≠ g) (env : Environment) (v : Option (List UInt8)) :
    f.of (ofEnvironment (Function.update env g.variable v)) = f.of (ofEnvironment env) :=
  agrees_of_ofEnvironment
    (Function.update_of_ne (fun h => hfg (Field.variable_injective h)) v env)

/-- **A length of time is overridden** by a number of seconds, -/
theorem period_ofEnvironment {d : Duration} :
    p.of (ofEnvironment env) = d ↔
      env.Overridden (Field.period p).variable (2 ^ 64) .ofSecs (p.of {}) d := by
  cases p <;> exact Environment.getD_natural?

/-- and the number of retries by a number. -/
theorem maxRetries_ofEnvironment :
    (ofEnvironment env).maxRetries = n ↔
      env.Overridden Field.maxRetries.variable (2 ^ 32) id (maxRetries {}) n := by
  rw [← show maxCount + 1 = 2 ^ 32 from rfl, ← Environment.getD_natural?, Option.map_id]
  rfl

/-- **The overrides are exact and independent.**  Every setting is one of the fields, which have
variables of their own, and depends on its variable alone.  A length of time and the number of
retries are what the variable gives, and the default if it gives nothing; and every number that
there is room for can be set, in any way to write it. -/
theorem ofEnvironment_exact :
    (∀ a b : Settings, (∀ f : Field, f.of a = f.of b) → a = b) ∧
      (∀ (f : Field) (env env' : Environment), env f.variable = env' f.variable →
        f.of (ofEnvironment env) = f.of (ofEnvironment env')) ∧
      (∀ f g : Field, f ≠ g → ∀ (env : Environment) v,
        f.of (ofEnvironment (Function.update env g.variable v)) = f.of (ofEnvironment env)) ∧
      (∀ (p : Period) (env : Environment) d, p.of (ofEnvironment env) = d ↔
        env.Overridden (Field.period p).variable (2 ^ 64) .ofSecs (p.of {}) d) ∧
      (∀ (env : Environment) n, (ofEnvironment env).maxRetries = n ↔
        env.Overridden Field.maxRetries.variable (2 ^ 32) id (maxRetries {}) n) ∧
      (∀ n < 2 ^ 64, ∀ s : String, Text.Written n s.toList → ∀ (p : Period) (env : Environment),
        p.of (ofEnvironment (env.set (Field.period p).variable s)) = .ofSecs n) ∧
      ∀ n < 2 ^ 32, ∀ s : String, Text.Written n s.toList → ∀ env : Environment,
        (ofEnvironment (env.set Field.maxRetries.variable s)).maxRetries = n := by
  refine ⟨fun _ _ => ext_of, fun _ _ _ => agrees_of_ofEnvironment,
    fun _ _ hfg => of_ofEnvironment_update hfg, fun _ _ _ => period_ofEnvironment,
    fun _ _ => maxRetries_ofEnvironment, ?_, ?_⟩
  · intro n hn s hs p env
    rw [period_ofEnvironment]
    exact .given (Environment.gives_set (Text.denotes_iff_written.mpr hs) hn)
  · intro n hn s hs env
    rw [maxRetries_ofEnvironment]
    exact .given (Environment.gives_set (Text.denotes_iff_written.mpr hs) hn)

/-- A number with a sign and zeros between wide blanks, where other variables hold no number or one
that there is no room for. -/
theorem ofEnvironment_exact_crowded :
    let unset : Environment := fun _ => none
    let env := (unset.set "BULK_IMPORT_LEASE_TIMEOUT_SECS" "+-1").set
      "BULK_IMPORT_MAX_RUNTIME_RETRIES" "4294967296"
    let changed := env.set "BULK_IMPORT_RE_ENQUEUE_DELAY_SECS" "\u2003+0042\n"
    (ofEnvironment changed).reEnqueueDelay = .ofSecs 42 ∧
      (ofEnvironment changed).leaseTimeout = (ofEnvironment env).leaseTimeout ∧
      (ofEnvironment changed).maxRetries = (ofEnvironment env).maxRetries ∧
      env.Overridden "BULK_IMPORT_MAX_RUNTIME_RETRIES" (2 ^ 32) id 3 3 ∧
      (ofEnvironment (env.set "BULK_IMPORT_MAX_RUNTIME_RETRIES" "4294967295")).maxRetries =
        4294967295 := by
  intro unset env changed
  obtain ⟨hall, hown, hother, -, hretries, hperiod, hcount⟩ := ofEnvironment_exact
  have hwritten : Text.Written 42 "\u2003+0042\n".toList :=
    .intro (l := ['\u2003']) (r := ['\n']) (List.forall_mem_singleton.mpr rfl)
      (.inr rfl : Text.Sign ['+']) 2 (List.forall_mem_singleton.mpr rfl)
  have hlast : Text.Written 4294967295 "4294967295".toList :=
    .intro (l := []) (r := []) (List.forall_mem_nil _) (.inl rfl : Text.Sign []) 0
      (List.forall_mem_nil _)
  refine ⟨hperiod 42 (by decide) _ hwritten .reEnqueueDelay env, ?_, ?_, ?_,
    hcount 4294967295 (by decide) _ hlast env⟩
  · exact hother (.period .leaseTimeout) (.period .reEnqueueDelay) (by decide) env _
  · exact hown .maxRetries changed env rfl
  · exact (hretries env 3).mp rfl

end Settings

end ImportTracking
