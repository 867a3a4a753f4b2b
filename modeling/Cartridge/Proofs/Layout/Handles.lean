import Cartridge.Proofs.Layout.Header
import Cartridge.Proofs.Registry.FreeLabel

/-!
Handles of components. The structure of an entity has one handle for each component: the
name of the component without a leading EC, or that name with the least number from two
on that is still free. Names with and without numbers share one space, in which nothing
counts but what the handles before are called; so no two handles are called the same,
whatever the components are: `handles_declared`.
-/

namespace Cartridge.Script

open Cartridge.Text (OneLine afterStart lowerFirst)
open Cartridge.Assembly (joinLines joinLines_append sourceLines)

/-! ### Choosing a handle -/

/-- The name of a component without a leading EC and with a small first letter. -/
def IsHandleBase (component base : String) : Prop :=
  (∃ rest, component = "EC" ++ rest ∧ base = lowerFirst rest) ∨
    (¬"EC".toList <+: component.toList ∧ base = lowerFirst component)

/-- A handle that is chosen when others are taken: the base if it is free, or else the
base with the least number that makes it free. -/
def ChoosesHandle (taken : List String) (base handle : String) : Prop :=
  (base ∉ taken ∧ handle = base) ∨
    (base ∈ taken ∧ ∃ n, 2 ≤ n ∧ handle = numberedHandle base n ∧ handle ∉ taken ∧
      ∀ m, 2 ≤ m → m < n → numberedHandle base m ∈ taken)

theorem isHandleBase_handleBase (component : String) :
    IsHandleBase component (handleBase component) := by
  rw [handleBase]
  split
  · next rest hrest =>
      rw [Text.afterStart_eq_some_iff] at hrest
      refine .inl ⟨String.ofList rest, String.toList_inj.1 ?_, rfl⟩
      calc
        component.toList = "EC".toList ++ rest := hrest
        _ = ("EC" ++ String.ofList rest).toList := by simp
  · next hnone =>
      refine .inr ⟨?_, rfl⟩
      rintro ⟨rest, hrest⟩
      rw [(Text.afterStart_eq_some_iff).2 hrest.symm] at hnone
      cases hnone

section

variable {taken others : List String} {base handle : String}

theorem ChoosesHandle.notMem (h : ChoosesHandle taken base handle) : handle ∉ taken := by
  rcases h with ⟨hfree, rfl⟩ | ⟨-, n, -, -, hfree, -⟩
  · exact hfree
  · exact hfree

theorem ChoosesHandle.congr (h : ChoosesHandle taken base handle)
    (hsame : ∀ name, name ∈ taken ↔ name ∈ others) : ChoosesHandle others base handle := by
  simpa only [ChoosesHandle, hsame] using h

/-- The search for a number ends within as many steps as there are names taken. -/
theorem choosesHandle_freeHandle (taken : List String) (base : String) :
    ChoosesHandle taken base (freeHandle taken base) := by
  rw [freeHandle]
  split
  · next htaken =>
      obtain ⟨i, hi, hfree⟩ :=
        Text.exists_free taken (Text.append_decimal_injective base) 2
      have hsome : ∃ i ≤ taken.length, taken.contains (numberedHandle base (2 + i)) = false :=
        ⟨i, hi, by simpa [numberedHandle] using hfree⟩
      obtain ⟨n, hn, hfresh, hfree, hbelow⟩ := Text.fresh_eq_first hsome
      refine .inr ⟨by simpa using htaken, n, hn, hfresh, ?_, fun m hm hmn => ?_⟩
      · rw [hfresh]
        simpa using hfree
      · simpa using hbelow m hm hmn
  · next hfree => exact .inl ⟨by simpa using hfree, rfl⟩

end

/-! ### One handle after the other -/

section

variable {taken : List String} {components : List Component}

theorem length_handlesFrom (taken : List String) (components : List Component) :
    (handlesFrom taken components).length = components.length := by
  induction components generalizing taken with
  | nil => rfl
  | cons c rest ih => rw [handlesFrom, List.length_cons, ih, List.length_cons]

theorem notMem_of_mem_handlesFrom {handle : String} (h : handle ∈ handlesFrom taken components) :
    handle ∉ taken := by
  induction components generalizing taken with
  | nil => cases h
  | cons c rest ih =>
      rw [handlesFrom] at h
      rcases List.mem_cons.1 h with rfl | h
      · exact (choosesHandle_freeHandle taken (handleBase c.name)).notMem
      · exact fun hmem => ih h (List.mem_cons_of_mem _ hmem)

theorem nodup_handlesFrom (taken : List String) (components : List Component) :
    (handlesFrom taken components).Nodup := by
  induction components generalizing taken with
  | nil => exact .nil
  | cons c rest ih =>
      rw [handlesFrom, List.nodup_cons]
      exact ⟨fun hmem => notMem_of_mem_handlesFrom hmem List.mem_cons_self, ih _⟩

/-- Each handle is chosen behind those that were taken from the start and those before it. -/
theorem choosesHandle_handlesFrom {i : Nat} {component : Component} {handle : String}
    (hcomponent : components[i]? = some component)
    (hhandle : (handlesFrom taken components)[i]? = some handle) :
    ChoosesHandle ((handlesFrom taken components).take i ++ taken) (handleBase component.name)
      handle := by
  induction components generalizing taken i with
  | nil => cases hcomponent
  | cons c rest ih =>
      rw [handlesFrom] at hhandle ⊢
      cases i with
      | zero =>
          cases hcomponent
          cases hhandle
          exact choosesHandle_freeHandle taken (handleBase component.name)
      | succ i =>
          rw [List.getElem?_cons_succ] at hcomponent hhandle
          refine (ih hcomponent hhandle).congr fun name => ?_
          simp only [List.take_succ_cons, List.mem_append, List.mem_cons]
          exact or_left_comm.trans or_assoc.symm

end

/-! ### The handles that a header declares -/

/-- The line that opens the structure of the handles. -/
def handlesOpening : String := "\tstruct Components"

/-- The handle that a line declares. -/
def handleName? (line : String) : Option String :=
  (afterStart "\t\tComponentHndl ".toList line.toList).map fun rest => String.ofList rest.dropLast

/-- The handles that a header declares, line by line. -/
def declaredHandles (header : String) : List String :=
  (((sourceLines header).dropWhile (· ≠ handlesOpening)).takeWhile (· ≠ handlesEnd)).filterMap
    handleName?

theorem handleName?_handleLine (handle : String) :
    handleName? (handleLine handle) = some handle := by
  have hline : (handleLine handle).toList =
      "\t\tComponentHndl ".toList ++ (handle.toList ++ ";".toList) := by
    -- An equation of the definition would evaluate the texts in it.
    delta handleLine
    rw [String.toList_append, String.toList_append, List.append_assoc]
  have hend : (handle.toList ++ ";".toList).dropLast = handle.toList := List.dropLast_concat
  rw [handleName?, hline, Text.afterStart_eq_some_iff.2 rfl, Option.map_some, hend,
    String.ofList_toList]

/-- What stands before the handles of an entity, behind the banner. -/
def handlesHead (e : Entity) : List String :=
  includeLines ++ ["struct " ++ e.typeName ++ " : Entity", "\x7b"]

/-- The lines of the structure of the handles, up to its end. -/
def handlesLines (e : Entity) : List String :=
  handlesOpening :: "\t\x7b" :: (handles e).map handleLine

theorem entityStart_append (e : Entity) :
    entityStart e ++ (handles e).map handleLine = handlesHead e ++ handlesLines e := by
  simp only [entityStart, handlesStart, handlesHead, handlesLines, handlesOpening,
    List.append_assoc, List.cons_append, List.nil_append]

theorem ne_handlesOpening_of_mem {e : Entity} :
    ∀ line ∈ handlesHead e, line ≠ handlesOpening := by
  have hstruct : "struct " ++ e.typeName ++ " : Entity" ≠ handlesOpening := by
    intro h
    have hhead := congrArg (fun line => line.toList.head?) h
    simp only [String.toList_append] at hhead
    cases hhead
  rw [handlesHead, List.forall_mem_append, List.forall_mem_cons]
  exact ⟨by decide, hstruct, by decide⟩

theorem filterMap_handleName?_handlesLines (e : Entity) :
    (handlesLines e).filterMap handleName? = handles e := by
  have hopening : handleName? handlesOpening = none := by decide
  have hbrace : handleName? "\t\x7b" = none := by decide
  rw [handlesLines, List.filterMap_cons_none hopening, List.filterMap_cons_none hbrace,
    List.filterMap_map]
  simp [handleName?_handleLine]

theorem declaredHandles_entityHeader {e : Entity} (htype : OneLine e.typeName)
    (hparams : ∀ p ∈ e.spawn.params, OneLine p.name)
    (hcomponents : ∀ c ∈ e.components, OneLine c.name) :
    declaredHandles (entityHeader e) = handles e := by
  obtain ⟨start, hstart, hlines⟩ := exists_sourceLines_entityHeader htype hparams hcomponents
  have hbefore : ∀ line ∈ start ++ handlesHead e, decide (line ≠ handlesOpening) = true := by
    simp only [List.forall_mem_append, decide_eq_true_eq]
    refine ⟨fun line hline hopening => hstart line hline ?_, ne_handlesOpening_of_mem⟩
    rw [hopening]
    decide
  have hinner : ∀ line ∈ handlesLines e, decide (line ≠ handlesEnd) = true := by
    intro line hline
    rw [decide_eq_true_eq]
    refine ne_handlesEnd (e := e) line ?_
    rw [entityStart_append]
    exact List.mem_append_right _ hline
  have hopening : ∀ rest, (handlesLines e ++ rest).dropWhile (· ≠ handlesOpening) =
      handlesLines e ++ rest := fun rest => List.dropWhile_cons_of_neg (by simp)
  rw [declaredHandles, hlines, entityStart_append, ← List.append_assoc, List.append_assoc,
    List.dropWhile_append_of_pos hbefore, hopening, List.takeWhile_append_of_pos hinner,
    List.takeWhile_cons_of_neg (by simp), List.append_nil, filterMap_handleName?_handlesLines]

/-- The structure of an entity has a handle for each component in turn. It is called like
the component, or else by the least number behind that name that no handle before it has,
so no two handles are called the same. -/
theorem handles_declared (e : Entity) :
    (∃ before after, entityHeader e =
      before ++ joinLines (handlesLines e ++ [handlesEnd]) ++ after) ∧
    (OneLine e.typeName → (∀ p ∈ e.spawn.params, OneLine p.name) →
      (∀ c ∈ e.components, OneLine c.name) → declaredHandles (entityHeader e) = handles e) ∧
    (handles e).length = e.components.length ∧ (handles e).Nodup ∧
    ∀ i component handle, e.components[i]? = some component → (handles e)[i]? = some handle →
      ∃ base, IsHandleBase component.name base ∧
        ChoosesHandle ((handles e).take i) base handle := by
  refine ⟨⟨banner ++ joinLines (handlesHead e),
      joinLines ("" :: (fieldLines e.typeName e.spawn.params ++ entityRest)), ?_⟩,
    declaredHandles_entityHeader, length_handlesFrom [] e.components,
    nodup_handlesFrom [] e.components, fun i component handle hcomponent hhandle => ?_⟩
  · rw [entityHeader_eq, entityStart_append, String.append_assoc, String.append_assoc,
      ← joinLines_append, ← joinLines_append, List.append_assoc, List.append_assoc]
    rfl
  · have hchooses := choosesHandle_handlesFrom hcomponent hhandle
    rw [List.append_nil] at hchooses
    exact ⟨handleBase component.name, isHandleBase_handleBase component.name, hchooses⟩

/-- Numbers that come with the names of components are stepped over. -/
def numberedSprites : Entity :=
  { Entity.named "EBat" 5 with
    components := ["ECSprite", "ECSprite2", "Sprite", "ECSprite"].map Component.named }

theorem numbered_sprites_apart :
    declaredHandles (entityHeader numberedSprites) = ["sprite", "sprite2", "sprite3", "sprite4"] ∧
      ∃ base, IsHandleBase "Sprite" base ∧ ChoosesHandle ["sprite", "sprite2"] base "sprite3" := by
  have htype : OneLine numberedSprites.typeName := by decide
  have hparams : ∀ p ∈ numberedSprites.spawn.params, OneLine p.name := by decide
  have hcomponents : ∀ c ∈ numberedSprites.components, OneLine c.name := by decide
  have hhandles : handles numberedSprites = ["sprite", "sprite2", "sprite3", "sprite4"] := by
    decide +kernel
  obtain ⟨-, hread, -, -, hchosen⟩ := handles_declared numberedSprites
  rw [hhandles] at hread hchosen
  exact ⟨hread htype hparams hcomponents, hchosen 2 (.named "Sprite") "sprite3" rfl rfl⟩

end Cartridge.Script
