import Templating.Proofs.Render.Registration
import Templating.Serve.Page
import Templating.Serve.Stylesheet

/-!
# Pages behind stylesheets

Some stylesheets may be served in front of a page.  A request for a stylesheet
is answered by the outermost site with its path.  All others reach the page,
with the classes of every stylesheet registered beside those that the request
brings along, so the page writes inline what is in no stylesheet.
-/

namespace Templating.Serve

open Render (Scope Component Output Trace Writes Unforked EqualTexts styleUses
  firstOccurrences)
open Style (StyledClass)

/-- Classes and the path where their rules are served. -/
structure Sheet where
  classes : List StyledClass
  path : String := defaultStylesheetPath

namespace Sheet

def ids (sheet : Sheet) : List String :=
  sheet.classes.map (·.id)

def entries (sheet : Sheet) : List (String × String) :=
  sheet.classes.map fun styled => (styled.id, styled.rule)

/-- The rule of a listed class is a part of the stylesheet. -/
theorem infix_stylesheet {sheet : Sheet} {entry : String × String}
    (listed : entry ∈ sheet.entries) :
    entry.2.toList <:+: (stylesheet sheet.classes).toList := by
  rcases List.mem_map.mp listed with ⟨styled, member, rfl⟩
  rcases List.append_of_mem member with ⟨before, behind, split⟩
  rw [stylesheet, String.toList_join, List.flatMap_map, split,
    List.flatMap_append, List.flatMap_cons, ← List.append_assoc]
  exact ⟨_, _, rfl⟩

end Sheet

/-- A page behind stylesheets, the outermost first. -/
def Page.behind (page : Page) : List Sheet → Handler
  | [] => page.handle
  | sheet :: rest =>
      StyledSite.handle ⟨sheet.classes, sheet.path, page.behind rest⟩

/-- The request with the classes of all stylesheets registered. -/
def Request.registerAll (request : Request) : List Sheet → Request
  | [] => request
  | sheet :: rest => (request.registerStyles sheet.classes).registerAll rest

/-- The outermost site with the path of the request answers it. -/
theorem behind_served (page : Page) {outer : List Sheet} {sheet : Sheet}
    (inner : List Sheet) {request : Request}
    (passed : ∀ other ∈ outer, request.path ≠ other.path)
    (served : request.path = sheet.path) :
    page.behind (outer ++ sheet :: inner) request =
      serveStylesheet sheet.classes request := by
  induction outer generalizing request with
  | nil => exact if_pos served
  | cons other rest inductionHypothesis =>
      rw [List.cons_append, Page.behind, StyledSite.handle,
        if_neg (passed other List.mem_cons_self)]
      exact inductionHypothesis
        (fun later member => passed later (List.mem_cons_of_mem _ member)) served

/-- The page answers if no site has the path of the request. -/
theorem behind_passed (page : Page) {sheets : List Sheet} {request : Request}
    (passed : ∀ sheet ∈ sheets, request.path ≠ sheet.path) :
    page.behind sheets request = page.handle (request.registerAll sheets) := by
  induction sheets generalizing request with
  | nil => rfl
  | cons sheet rest inductionHypothesis =>
      rw [Page.behind, StyledSite.handle,
        if_neg (passed sheet List.mem_cons_self)]
      exact inductionHypothesis fun later member =>
        passed later (List.mem_cons_of_mem _ member)

/-- Registering classes changes nothing else about a request. -/
structure Request.Registers (request : Request) (ids : List String)
    (after : Request) : Prop where
  withoutScope : { after with scope := none } = { request with scope := none }
  scripts : (after.scope.getD .empty).scripts =
    (request.scope.getD .empty).scripts
  children : (after.scope.getD .empty).children =
    (request.scope.getD .empty).children
  styles : ∀ name, name ∈ (after.scope.getD .empty).writtenStyles ↔
    name ∈ (request.scope.getD .empty).writtenStyles ∨ name ∈ ids

theorem registers_registerStyles (request : Request)
    (classes : List StyledClass) :
    request.Registers (classes.map (·.id)) (request.registerStyles classes) :=
  ⟨rfl, rfl, rfl, fun _ => Registry.mem_insertAll⟩

theorem Request.Registers.trans {request between after : Request}
    {ids others : List String} (registers : request.Registers ids between)
    (more : between.Registers others after) :
    request.Registers (ids ++ others) after := by
  refine ⟨more.withoutScope.trans registers.withoutScope,
    more.scripts.trans registers.scripts,
    more.children.trans registers.children, ?_⟩
  intro name
  rw [more.styles, registers.styles, List.mem_append, or_assoc]

theorem registers_registerAll (request : Request) (sheets : List Sheet) :
    request.Registers (sheets.flatMap Sheet.ids)
      (request.registerAll sheets) := by
  induction sheets generalizing request with
  | nil => exact ⟨rfl, rfl, rfl, fun name => by simp [Request.registerAll]⟩
  | cons sheet rest inductionHypothesis =>
      exact (registers_registerStyles request sheet.classes).trans
        (inductionHypothesis _)

/-! ## What the page writes -/

/-- The names that the page need not write: those that the request brings along
and those in a stylesheet. -/
def knownStyles (request : Request) (sheets : List Sheet) : List String :=
  (request.scope.getD .empty).writtenStyles.names ++ sheets.flatMap Sheet.ids

theorem mem_ids {sheets : List Sheet} {name : String} :
    name ∈ sheets.flatMap Sheet.ids ↔
      ∃ sheet ∈ sheets, ∃ entry ∈ sheet.entries, entry.1 = name := by
  simp [Sheet.ids, Sheet.entries]

theorem handle_ok {page : Page} {request : Request} {after : Scope}
    {sink : Sink}
    (rendered : page.component.render (request.scope.getD .empty) .unlimited =
      (.ok (), after, sink)) :
    page.handle request =
      ⟨page.status, [("content-type", page.contentType)], sink.bytes⟩ := by
  rw [Page.handle, rendered]

theorem handle_error {page : Page} {request : Request} {cause : OutputError}
    {after : Scope} {sink : Sink}
    (rendered : page.component.render (request.scope.getD .empty) .unlimited =
      (.error cause, after, sink)) :
    page.handle request =
      match page.onError with
      | some answer => answer { request with scope := none } cause
      | none => renderFailure := by
  cases answering : page.onError with
  | some answer => simp only [Page.handle, rendered, answering]
  | none => simp only [Page.handle, rendered, answering]

/-- The rule of a class is in the body or in a stylesheet, or the class was
brought along or registered by hand. -/
def Available (sheets : List Sheet) (request : Request) (trace : Trace)
    (outputs : List Output) (entry : String × String) : Prop :=
  entry ∈ outputs.flatMap Output.styleEntries ∨
    (∃ sheet ∈ sheets, entry ∈ sheet.entries ∧
      entry.2.toList <:+: (stylesheet sheet.classes).toList) ∨
    entry.1 ∈ (request.scope.getD .empty).writtenStyles ∨
    ∃ call ∈ trace, call.step = .addStyle entry.1

/-- What the calls of a page behind stylesheets write.  Each style call writes
the first occurrences of what is neither known nor registered in its scope;
without registrations by hand and copies of the scope, these are the first
occurrences among all uses.  With equal rules for equal classes, every class
that is used is available. -/
structure Inlines (sheets : List Sheet) (request : Request) (trace : Trace)
    (outputs : List Output) : Prop where
  writes : List.Forall₂ (Writes (knownStyles request sheets)) trace outputs
  once : Unforked trace → (∀ call ∈ trace, ∀ id, call.step ≠ .addStyle id) →
    outputs.flatMap Output.styleEntries =
      firstOccurrences (knownStyles request sheets) (styleUses trace)
  available : EqualTexts (styleUses trace ++ sheets.flatMap Sheet.entries) →
    ∀ entry ∈ styleUses trace, Available sheets request trace outputs entry

theorem available_of_writes {sheets : List Sheet} {request : Request}
    {component : Component} {children : Option Component}
    {outputs : List Output}
    (writes : List.Forall₂ (Writes (knownStyles request sheets))
      (component.trace children) outputs)
    (equalRules : EqualTexts (styleUses (component.trace children) ++
      sheets.flatMap Sheet.entries))
    {entry : String × String}
    (used : entry ∈ styleUses (component.trace children)) :
    Available sheets request (component.trace children) outputs entry := by
  have isUse := List.subset_append_left (styleUses (component.trace children))
    (sheets.flatMap Sheet.entries)
  rcases Render.provided_of_threaded (Render.threaded_subset component children)
      (equalRules.subset isUse) writes used with
    atStart | isKnown | byHand | written
  · cases atStart
  · rcases List.mem_append.mp isKnown with brought | listed
    · exact .inr (.inr (.inl brought))
    · rcases mem_ids.mp listed with ⟨sheet, member, other, isEntry, sameName⟩
      have same := equalRules other
        (List.mem_append_right _ (List.mem_flatMap.mpr ⟨sheet, member, isEntry⟩))
        entry (isUse used) sameName
      subst same
      exact .inr (.inl ⟨sheet, member, isEntry, Sheet.infix_stylesheet isEntry⟩)
  · exact .inr (.inr (.inr byHand))
  · exact .inl written

theorem inlines_of_writes {sheets : List Sheet} {request : Request}
    {component : Component} {children : Option Component}
    {outputs : List Output}
    (writes : List.Forall₂ (Writes (knownStyles request sheets))
      (component.trace children) outputs) :
    Inlines sheets request (component.trace children) outputs := by
  refine ⟨writes, ?_, fun equalRules _ used =>
    available_of_writes writes equalRules used⟩
  intro unforked byUse
  rw [Render.styleEntries_of_threaded (Render.threaded_eq unforked) byUse writes,
    List.append_nil]

/-- A page behind stylesheets.  The outermost site with the path of a request
answers with its rules.  Otherwise the page is rendered in the scope of the
request with all listed classes registered and everything else as it was.  If
that fails, only the error is answered.  If it succeeds, the body is what the
calls of the page write. -/
theorem behind_styles (sheets : List Sheet) (page : Page) (request : Request) :
    (∀ outer sheet inner, sheets = outer ++ sheet :: inner →
      (∀ other ∈ outer, request.path ≠ other.path) →
      request.path = sheet.path →
      page.behind sheets request =
        ⟨200, [("content-type", "text/css")],
          Text.bytes (stylesheet sheet.classes)⟩) ∧
    ((∀ sheet ∈ sheets, request.path ≠ sheet.path) →
      let brought := request.scope.getD .empty
      let scope := (request.registerAll sheets).scope.getD .empty
      scope.scripts = brought.scripts ∧ scope.children = brought.children ∧
        (∀ name, name ∈ scope.writtenStyles ↔
          name ∈ knownStyles request sheets) ∧
        (∀ cause after sink,
          page.component.render scope .unlimited =
            (.error cause, after, sink) →
          page.behind sheets request =
            match page.onError with
            | some answer => answer { request with scope := none } cause
            | none => renderFailure) ∧
        (∀ after sink,
          page.component.render scope .unlimited = (.ok (), after, sink) →
          page.behind sheets request =
              ⟨page.status, [("content-type", page.contentType)],
                sink.bytes⟩ ∧
            ∃ outputs, sink.bytes = outputs.flatMap Output.bytes ∧
              Inlines sheets request (page.component.trace brought.children)
                outputs)) := by
  refine ⟨?_, ?_⟩
  · rintro outer sheet inner rfl passed served
    exact behind_served page inner passed served
  · intro passed brought scope
    have registers := registers_registerAll request sheets
    have names : ∀ name,
        name ∈ scope.writtenStyles ↔ name ∈ knownStyles request sheets := by
      intro name
      rw [registers.styles]
      exact List.mem_append.symm
    rw [behind_passed page passed]
    refine ⟨registers.scripts, registers.children, names, ?_, ?_⟩
    · intro cause after sink rendered
      rw [handle_error rendered, registers.withoutScope]
    · intro after sink rendered
      refine ⟨handle_ok rendered, ?_⟩
      rcases Render.render_follows rendered with ⟨outputs, written, bytes⟩
      rw [registers.children] at written
      exact ⟨outputs, bytes, inlines_of_writes
        (written.imp fun _ _ writes => writes.congr names)⟩

def redClass : StyledClass := ⟨"red", ".red\x7bcolor:red;\x7d"⟩

def blueClass : StyledClass := ⟨"blue", ".blue\x7bcolor:blue;\x7d"⟩

/-- A page that uses a class of its own twice and one from a stylesheet. -/
def shop : Page where
  component := [.styles [.styled redClass, .styled blueClass], .write "<p>",
    .wrap [.styles [.styled redClass]]]

/-- Two stylesheets, one of which has no classes. -/
def shopSheets : List Sheet :=
  [⟨[blueClass], "/blue.css"⟩, ⟨[], defaultStylesheetPath⟩]

theorem shop_trace :
    shop.component.trace none =
      [⟨[], .styles [.styled redClass, .styled blueClass]⟩,
        ⟨["red", "blue"], .write "<p>"⟩,
        ⟨["red", "blue"], .styles [.styled redClass]⟩] := by
  rfl

theorem shop_styles :
    (shop.behind shopSheets ⟨"/blue.css", [], none⟩).body =
        Text.bytes blueClass.rule ∧
      ∃ outputs : List Output,
        (shop.behind shopSheets ⟨"/", [], none⟩).body =
          outputs.flatMap Output.bytes ∧
        outputs.flatMap Output.styleEntries =
          [(redClass.id, redClass.rule)] := by
  constructor
  · rcases behind_styles shopSheets shop ⟨"/blue.css", [], none⟩ with
      ⟨served, _⟩
    rw [served [] ⟨[blueClass], "/blue.css"⟩ [⟨[], defaultStylesheetPath⟩] rfl
      (by simp) (by decide +kernel)]
    decide +kernel
  · rcases behind_styles shopSheets shop ⟨"/", [], none⟩ with ⟨_, passed⟩
    rcases passed (by decide +kernel) with ⟨_, _, _, _, succeeds⟩
    rcases rendered : shop.component.render
        (((Request.mk "/" [] none).registerAll shopSheets).scope.getD .empty)
        .unlimited with ⟨result, after, sink⟩
    have ok : (shop.component.render
        (((Request.mk "/" [] none).registerAll shopSheets).scope.getD .empty)
        .unlimited).1.isOk = true := by decide +kernel
    rw [rendered] at ok
    cases result with
    | error cause => cases ok
    | ok _ =>
        rcases succeeds after sink rendered with
          ⟨response, outputs, bytes, inlines⟩
        have unforked : Unforked (shop.component.trace none) := by
          intro call member
          rw [shop_trace] at member
          revert call
          decide
        have byUse : ∀ call ∈ shop.component.trace none, ∀ id,
            call.step ≠ .addStyle id := by
          rw [shop_trace]
          simp
        refine ⟨outputs, by rw [response, bytes], ?_⟩
        rw [inlines.once unforked byUse]
        decide +kernel

/-! ## Registrations by hand and copies of the scope -/

/-- A page that registers its class by hand before it uses it. -/
def registeredByHand : Page where
  component := [.addStyle "red", .styles [.styled redClass]]

/-- A page that uses its class in a copy of the scope and then again. -/
def usedInCopy : Page where
  component :=
    [.fork [] [.styles [.styled redClass]], .styles [.styled redClass]]

/-- Such a class may be neither known nor written, or it is written twice. -/
theorem inline_styles_missing_and_repeated :
    let sheets : List Sheet := [⟨[], defaultStylesheetPath⟩]
    let request : Request := ⟨"/", [], none⟩
    let block := "<style type=\"text/css\">" ++ redClass.rule ++ "</style>"
    redClass.id ∉ knownStyles request sheets ∧
      (redClass.id, redClass.rule) ∈
        styleUses (registeredByHand.component.trace none) ∧
      (registeredByHand.behind sheets request).status = 200 ∧
      ¬Text.bytes redClass.rule <:+:
        (registeredByHand.behind sheets request).body ∧
      (usedInCopy.behind sheets request).status = 200 ∧
      (usedInCopy.behind sheets request).body = Text.bytes (block ++ block) := by
  decide +kernel

end Templating.Serve
