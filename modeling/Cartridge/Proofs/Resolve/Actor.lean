import Cartridge.Export.Resolve

/-!
The sprite actor of a slot, and the symbols that are made of it. A level names
actors in two ways, by variables and by a field of its own, and the variables
of all levels are searched before the field of any. So the levels keep their
order among variables and among fields, but a field yields to the variable of
a weaker level; `symbols_of_strongest_actor` says when that makes no
difference.
-/

namespace Cartridge.Export

/-- The level names an actor of the project for the slot, by a variable with
that role or by its field. -/
def Level.Names (level : Level) (p : Project) (slot : Int32) (a : Actor) : Prop :=
  (∃ v ∈ level.vars, v.plays .spriteActor slot = true ∧ p.actor? v.value = some a) ∨
    level.spriteActor.bind p.actor? = some a

instance (level : Level) (p : Project) (slot : Int32) (a : Actor) :
    Decidable (level.Names p slot a) :=
  inferInstanceAs (Decidable (_ ∨ _))

namespace Context

/-- The first level, counted from the strongest, that names an actor of the
project for the slot. -/
def IsStrongestNaming (c : Context) (slot : Int32) (level : Level) : Prop :=
  ∃ before after, c.levels = before ++ level :: after ∧
    (∃ a, level.Names c.project slot a) ∧
    ∀ stronger ∈ before, ∀ a, ¬stronger.Names c.project slot a

/-! ### Symbols of sheets and animations -/

/-- The symbol of a sheet that is not zero is made of the actor of the slot and
of the sheet that the value of the declaration names. -/
theorem sheetSymbol_of_ne_zero {c : Context} {decl : Variable}
    (h : c.sheetSymbol decl ≠ "0") :
    ∃ actor sheet, c.actor? decl.slot = some actor ∧
      actor.sheet? (c.valueOf decl) = some sheet ∧
      c.sheetSymbol decl = "actor_" ++ actor.name ++ "_spritesheet_" ++ sheet.name := by
  unfold sheetSymbol at h ⊢
  cases hactor : c.actor? decl.slot with
  | none => simp [hactor] at h
  | some actor =>
      cases hsheet : actor.sheet? (c.valueOf decl) with
      | none => simp [hactor, hsheet] at h
      | some sheet => exact ⟨actor, sheet, rfl, hsheet, by simp [hsheet]⟩

/-- The symbol of an animation that is not zero is made of the actor of the
slot, of the sheet that the strongest variable for a sheet names, and of the
animation that the value of the declaration names on it. -/
theorem animationSymbol_of_ne_zero {c : Context} {decl : Variable}
    (h : c.animationSymbol decl ≠ "0") :
    ∃ actor v sheet animation, c.actor? decl.slot = some actor ∧
      c.tagged? .spriteSheet decl.slot = some v ∧ actor.sheet? v.value = some sheet ∧
      sheet.animation? (c.valueOf decl) = some animation ∧
      c.animationSymbol decl = "actor_" ++ actor.name ++ "_sheet_" ++ sheet.name ++
        "_anim_" ++ animation.name := by
  unfold animationSymbol at h ⊢
  cases hactor : c.actor? decl.slot with
  | none => simp [hactor] at h
  | some actor =>
      cases hv : c.tagged? .spriteSheet decl.slot with
      | none => simp [hactor, hv] at h
      | some v =>
          cases hsheet : actor.sheet? v.value with
          | none => simp [hactor, hv, hsheet] at h
          | some sheet =>
              cases hanimation : sheet.animation? (c.valueOf decl) with
              | none => simp [hactor, hv, hsheet, hanimation] at h
              | some animation =>
                  exact ⟨actor, v, sheet, animation, rfl, rfl, hsheet, hanimation,
                    by simp [hsheet, hanimation]⟩

theorem resolvedValue_of_sheet {c : Context} {decl : Variable}
    (h : decidingRole? decl.tags = some .spriteSheet) :
    c.resolvedValue decl = c.sheetSymbol decl := by
  rw [resolvedValue, h]

theorem resolvedValue_of_animation {c : Context} {decl : Variable}
    (h : decidingRole? decl.tags = some .spriteAnimation) :
    c.resolvedValue decl = c.animationSymbol decl := by
  rw [resolvedValue, h]

/-! ### The actor of a slot -/

/-- A variable that a search with a role finds plays that role. -/
theorem plays_of_tagged? {table : VariableTable} {role : Role} {slot : Int32}
    {v : Variable} (h : table.tagged? role slot = some v) :
    v ∈ table ∧ v.plays role slot = true :=
  ⟨List.mem_of_find?_eq_some h, List.find?_some h⟩

/-- Whatever actor a slot has, one of the levels names it. -/
theorem exists_names_of_actor? {c : Context} {slot : Int32} {a : Actor}
    (h : c.actor? slot = some a) : ∃ level ∈ c.levels, level.Names c.project slot a := by
  unfold actor? at h
  split at h
  · next actor hactor =>
      cases h
      obtain ⟨v, hv, hknown⟩ := Option.bind_eq_some_iff.1 hactor
      obtain ⟨level, hlevel, hfound⟩ := List.exists_of_findSome?_eq_some hv
      obtain ⟨hmem, hplays⟩ := plays_of_tagged? hfound
      exact ⟨level, hlevel, .inl ⟨v, hmem, hplays, hknown⟩⟩
  · obtain ⟨level, hlevel, hfield⟩ := List.exists_of_findSome?_eq_some h
    exact ⟨level, hlevel, .inr hfield⟩

section

variable {c : Context} {slot : Int32} {level : Level} {before after : List Level}

/-- The strongest level with a variable for the actor decides, if it names a
known one. -/
theorem actor?_of_variable {v : Variable} {a : Actor}
    (hlevels : c.levels = before ++ level :: after)
    (hbefore : ∀ stronger ∈ before, stronger.vars.tagged? .spriteActor slot = none)
    (hv : level.vars.tagged? .spriteActor slot = some v)
    (ha : c.project.actor? v.value = some a) : c.actor? slot = some a := by
  have hfirst : before.findSome? (fun level => level.vars.tagged? .spriteActor slot) = none :=
    List.findSome?_eq_none_iff.2 hbefore
  have htagged : c.tagged? .spriteActor slot = some v := by
    rw [tagged?, hlevels, List.findSome?_append, hfirst, Option.none_or,
      List.findSome?_cons, hv]
  rw [actor?, htagged, Option.bind_some, ha]

/-- Without any variable for the actor, the strongest level with a field that
names a known one decides. -/
theorem actor?_of_field {a : Actor} (hlevels : c.levels = before ++ level :: after)
    (hnone : ∀ level ∈ c.levels, level.vars.tagged? .spriteActor slot = none)
    (hbefore : ∀ stronger ∈ before, stronger.spriteActor.bind c.project.actor? = none)
    (ha : level.spriteActor.bind c.project.actor? = some a) : c.actor? slot = some a := by
  have htagged : c.tagged? .spriteActor slot = none := List.findSome?_eq_none_iff.2 hnone
  have hfirst : before.findSome? (fun level => level.spriteActor.bind c.project.actor?) =
      none := List.findSome?_eq_none_iff.2 hbefore
  rw [actor?, htagged, Option.bind_none, hlevels]
  simp only [List.findSome?_append, hfirst, Option.none_or, List.findSome?_cons, ha]

/-- What the levels say about the actor of a slot does not depend on the way
they say it: variables name known actors only, and a level whose field names
one has a variable of its own if a weaker level has one. -/
structure ActorsInOrder (c : Context) (slot : Int32) : Prop where
  known : ∀ level ∈ c.levels, ∀ v ∈ level.vars, v.plays .spriteActor slot = true →
    (c.project.actor? v.value).isSome
  fields : c.levels.Pairwise fun strong weak =>
    (strong.spriteActor.bind c.project.actor?).isSome →
      (weak.vars.tagged? .spriteActor slot).isSome →
        (strong.vars.tagged? .spriteActor slot).isSome

instance (c : Context) (slot : Int32) : Decidable (c.ActorsInOrder slot) :=
  decidable_of_iff (_ ∧ _) ⟨fun ⟨known, fields⟩ => ⟨known, fields⟩, fun h => ⟨h.known, h.fields⟩⟩

/-- A level that names no known actor has no variable for one. -/
theorem ActorsInOrder.tagged?_eq_none (h : c.ActorsInOrder slot) (hlevel : level ∈ c.levels)
    (hsilent : ∀ a, ¬level.Names c.project slot a) :
    level.vars.tagged? .spriteActor slot = none := by
  cases hv : level.vars.tagged? .spriteActor slot with
  | none => rfl
  | some v =>
      obtain ⟨hmem, hplays⟩ := plays_of_tagged? hv
      obtain ⟨a, ha⟩ := Option.isSome_iff_exists.1 (h.known level hlevel v hmem hplays)
      exact absurd (.inl ⟨v, hmem, hplays, ha⟩) (hsilent a)

/-- Below a level that names its actor by its field alone no level has a variable for one. -/
theorem ActorsInOrder.weaker_tagged?_eq_none (h : c.ActorsInOrder slot)
    (hlevels : c.levels = before ++ level :: after)
    (hfield : (level.spriteActor.bind c.project.actor?).isSome)
    (hnone : level.vars.tagged? .spriteActor slot = none) :
    ∀ weaker ∈ after, weaker.vars.tagged? .spriteActor slot = none := by
  intro weaker hweaker
  have hpair := h.fields
  rw [hlevels, List.pairwise_append, List.pairwise_cons] at hpair
  have hstrong := hpair.2.1.1 weaker hweaker hfield
  rw [hnone] at hstrong
  simpa using hstrong

/-- The actor of a slot is one that the strongest level names. -/
theorem actor?_of_isStrongestNaming (h : c.ActorsInOrder slot)
    (hlevel : c.IsStrongestNaming slot level) :
    ∃ a, c.actor? slot = some a ∧ level.Names c.project slot a := by
  obtain ⟨before, after, hlevels, ⟨a, ha⟩, hbefore⟩ := hlevel
  have hmem : ∀ stronger ∈ before, stronger ∈ c.levels := by
    intro stronger hstronger
    rw [hlevels]
    exact List.mem_append_left _ hstronger
  have hvars : ∀ stronger ∈ before, stronger.vars.tagged? .spriteActor slot = none :=
    fun stronger hstronger =>
      h.tagged?_eq_none (hmem stronger hstronger) (hbefore stronger hstronger)
  cases hv : level.vars.tagged? .spriteActor slot with
  | some v =>
      obtain ⟨hv', hplays⟩ := plays_of_tagged? hv
      obtain ⟨b, hb⟩ :=
        Option.isSome_iff_exists.1 (h.known level (by simp [hlevels]) v hv' hplays)
      exact ⟨b, actor?_of_variable hlevels hvars hv hb, .inl ⟨v, hv', hplays, hb⟩⟩
  | none =>
      -- Without a variable the level names its actor by the field.
      have hfield : level.spriteActor.bind c.project.actor? = some a := by
        rcases ha with ⟨v, hv', hplays, -⟩ | hfield
        · exact absurd hplays (by simpa using List.find?_eq_none.1 hv v hv')
        · exact hfield
      refine ⟨a, actor?_of_field hlevels ?_ ?_ hfield, .inr hfield⟩
      · rw [hlevels]
        simp only [List.mem_append, List.mem_cons]
        rintro other (hother | rfl | hother)
        · exact hvars other hother
        · exact hv
        · exact h.weaker_tagged?_eq_none hlevels (by rw [hfield]; rfl) hv other hother
      · intro stronger hstronger
        rw [Option.eq_none_iff_forall_ne_some]
        exact fun b hb => hbefore stronger hstronger b (.inr hb)

/-- If any level names a known actor, one of them is the strongest to do so. -/
theorem exists_isStrongestNaming {a : Actor} (hlevel : level ∈ c.levels)
    (ha : level.Names c.project slot a) :
    ∃ strongest, c.IsStrongestNaming slot strongest := by
  classical
  have hsome : (c.levels.find? fun level => ∃ a, level.Names c.project slot a).isSome :=
    List.find?_isSome.2 ⟨level, hlevel, decide_eq_true ⟨a, ha⟩⟩
  obtain ⟨strongest, hfind⟩ := Option.isSome_iff_exists.1 hsome
  obtain ⟨hnames, before, after, hlevels, hbefore⟩ := List.find?_eq_some_iff_append.1 hfind
  refine ⟨strongest, before, after, hlevels, of_decide_eq_true hnames, ?_⟩
  intro stronger hstronger b hb
  have := hbefore stronger hstronger
  simp only [Bool.not_eq_true', decide_eq_false_iff_not] at this
  exact this ⟨b, hb⟩

end

/-- The symbols of sheets and animations are made of an actor that the
strongest level names which names any, as long as it makes no difference
whether a level names it by a variable or by its field. -/
theorem symbols_of_strongest_actor {c : Context} {slot : Int32} (h : c.ActorsInOrder slot) :
    ((∀ level ∈ c.levels, ∀ a, ¬level.Names c.project slot a) ∧ c.actor? slot = none ∨
      ∃ level a, c.IsStrongestNaming slot level ∧ level.Names c.project slot a ∧
        c.actor? slot = some a) ∧
    ∀ decl : Variable, decl.slot = slot → (c.resolve decl).value ≠ "0" →
      (decidingRole? decl.tags = some .spriteSheet →
        ∃ a sheet, c.actor? slot = some a ∧ sheet ∈ a.sheets ∧
          (c.resolve decl).value = "actor_" ++ a.name ++ "_spritesheet_" ++ sheet.name) ∧
      (decidingRole? decl.tags = some .spriteAnimation →
        ∃ a sheet animation, c.actor? slot = some a ∧ sheet ∈ a.sheets ∧
          animation ∈ sheet.animations ∧
          (c.resolve decl).value = "actor_" ++ a.name ++ "_sheet_" ++ sheet.name ++ "_anim_" ++
            animation.name) := by
  constructor
  · cases ha : c.actor? slot with
    | none =>
        refine .inl ⟨fun level hlevel a hnames => ?_, rfl⟩
        obtain ⟨strongest, hstrongest⟩ := exists_isStrongestNaming hlevel hnames
        obtain ⟨b, hb, -⟩ := actor?_of_isStrongestNaming h hstrongest
        rw [ha] at hb
        cases hb
    | some a =>
        obtain ⟨level, hlevel, hnames⟩ := exists_names_of_actor? ha
        obtain ⟨strongest, hstrongest⟩ := exists_isStrongestNaming hlevel hnames
        obtain ⟨b, hb, hstrong⟩ := actor?_of_isStrongestNaming h hstrongest
        rw [ha] at hb
        cases hb
        exact .inr ⟨strongest, a, hstrongest, hstrong, rfl⟩
  · rintro decl rfl hvalue
    constructor
    · intro hrole
      rw [resolve, resolvedValue_of_sheet hrole] at hvalue ⊢
      obtain ⟨a, sheet, ha, hsheet, hsymbol⟩ := sheetSymbol_of_ne_zero hvalue
      exact ⟨a, sheet, ha, List.mem_of_find?_eq_some hsheet, hsymbol⟩
    · intro hrole
      rw [resolve, resolvedValue_of_animation hrole] at hvalue ⊢
      obtain ⟨a, v, sheet, animation, ha, -, hsheet, hanimation, hsymbol⟩ :=
        animationSymbol_of_ne_zero hvalue
      exact ⟨a, sheet, animation, ha, List.mem_of_find?_eq_some hsheet,
        List.mem_of_find?_eq_some hanimation, hsymbol⟩

/-! A sprite component that two actors can be drawn with. -/

def walk : SpriteSheet := ⟨"Walk", [⟨"Loop"⟩]⟩

def run : SpriteSheet := ⟨"Run", [⟨"Loop"⟩]⟩

def enemy : Actor := ⟨"Enemy", [walk, run]⟩

def boss : Actor := ⟨"Boss", [walk]⟩

def spriteVariable (name : String) (role : Role) (value : String) : Variable :=
  ⟨name, .long, value, [role.tag], 0, "ECSprite"⟩

def sheetVariable : Variable := spriteVariable "SDSprite_Sheet" .spriteSheet "Walk"

def animationVariable : Variable := spriteVariable "SDSprite_Anim" .spriteAnimation "Loop"

/-- An enemy without overrides, whose type declares some variables besides. -/
def enemyContext (vars : VariableTable) : Context where
  project := ⟨[], [], [enemy, boss], []⟩
  type := ⟨1, "EEnemy", .zero, some "Enemy", vars ++ [sheetVariable, animationVariable], [],
    none, [], false⟩
  placement := none
  child := none
  archetype := none
  addresses := .empty
  border := .zero

/-- An instance of the enemy that names an actor by its field. -/
def placedEnemy (actor : Option String) (vars : VariableTable) : Instance :=
  ⟨5, "", 1, .zero, .zero, actor, vars⟩

/-- A variable of an instance counts before the field of its type. -/
theorem boss_drawn_by_variable :
    let v := spriteVariable "SDSprite_Actor" .spriteActor "boss"
    let c := { enemyContext [] with placement := some (placedEnemy none [v]) }
    c.ActorsInOrder 0 ∧
    (∃ level a, c.IsStrongestNaming 0 level ∧ level.Names c.project 0 a ∧
      c.actor? 0 = some a) ∧
    (c.resolve sheetVariable).value = "actor_Boss_spritesheet_Walk" := by
  intro v c
  have horder : c.ActorsInOrder 0 := by decide +kernel
  have hactor : c.actor? 0 = some boss := by decide +kernel
  obtain ⟨hstrongest, hsymbols⟩ := symbols_of_strongest_actor horder
  obtain ⟨a, sheet, ha, hsheet, hvalue⟩ :=
    (hsymbols sheetVariable rfl (by decide +kernel)).1 (by decide +kernel)
  rw [hactor] at ha
  cases ha
  cases List.mem_singleton.1 hsheet
  refine ⟨horder, hstrongest.resolve_left fun hnone => ?_, hvalue⟩
  rw [hactor] at hnone
  cases hnone.2

/-- The field of an instance yields to a variable of its type, so the enemy is
drawn with an actor that the strongest level does not name. -/
theorem instance_field_yields_to_type_variable :
    let v := spriteVariable "SDSprite_Actor" .spriteActor "Enemy"
    let placed := placedEnemy (some "Boss") []
    let c := { enemyContext [v] with placement := some placed }
    c.IsStrongestNaming 0 placed.level ∧ placed.level.Names c.project 0 boss ∧
    c.actor? 0 = some enemy ∧ ¬placed.level.Names c.project 0 enemy ∧
    (c.resolve sheetVariable).value = "actor_Enemy_spritesheet_Walk" ∧
    (c.resolve animationVariable).value = "actor_Enemy_sheet_Walk_anim_Loop" := by
  intro v placed c
  have hboss : placed.level.Names c.project 0 boss := by decide +kernel
  refine ⟨⟨[], [c.type.level], rfl, ⟨boss, hboss⟩, by simp⟩, hboss, ?_, ?_, ?_, ?_⟩ <;>
    decide +kernel

end Context

end Cartridge.Export
