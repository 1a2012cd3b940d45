/-
**Tag errors in reports.**

A tag that refuses its call does so inside of a template, and any number of other calls may be
around it.  Whatever is around it, the report on the template is about this error alone, and what
kind of failure becomes of the report depends on nothing else.  The report on a chain of errors
without a tag error has the messages of all of them.

Main definitions:

* `Template.Refuses` — a tag that refuses its call;
* `Compile.Plan.settingOf` — what a template can refer to in a run.

Main results:

* `RenderError.ofLinks_eq_tag_iff`, `RenderError.ofLinks_eq_evaluation_iff` — **which report is
  made of a chain of errors**;
* `Compile.kind_ofRendering_ofLinks` — which failure is made of it;
* `Template.tagText_eq_error_iff` — the faults of tags;
* `Compile.tag_errors_surface` — **the law of reports**.
-/

import JellyViews.Compile.Run
import JellyViews.Proofs.Template.Raising

set_option relaxedAutoImplicit false
set_option autoImplicit false

namespace JellyViews

open Tag Template

/-! ### Chains of errors -/

namespace Template.Link

variable {l : Link} {links : List Link} {e : TagError}

theorem refusal?_eq_some_iff : l.refusal? = some e ↔ l = .refusal e := by
  cases l with
  | message text => simp [refusal?]
  | refusal error => simp [refusal?]

/-- Errors none of which is that of a tag are messages. -/
theorem eq_messages (h : ∀ l ∈ links, l.refusal? = none) :
    links = (links.map text).map .message := by
  rw [List.map_map]
  refine (List.map_id links).symm.trans (List.map_congr_left fun l hl => ?_)
  cases l with
  | message text => rfl
  | refusal error => cases h _ hl

theorem findSome?_messages (messages : List String) :
    (messages.map message).findSome? refusal? = none := by
  rw [List.findSome?_eq_none_iff]
  intro l hl
  obtain ⟨text, -, rfl⟩ := List.mem_map.1 hl
  rfl

theorem findSome?_refusal?_eq_some_iff :
    links.findSome? refusal? = some e ↔ ∃ (outer : List String) (inner : List Link),
      links = outer.map message ++ refusal e :: inner := by
  constructor
  · intro h
    obtain ⟨outer, l, inner, rfl, hl, houter⟩ := List.findSome?_eq_some_iff.1 h
    obtain rfl := refusal?_eq_some_iff.1 hl
    exact ⟨outer.map text, inner, by rw [← eq_messages houter]⟩
  · rintro ⟨outer, inner, rfl⟩
    rw [List.findSome?_append, findSome?_messages]
    rfl

theorem findSome?_refusal?_eq_none_iff :
    links.findSome? refusal? = none ↔ ∃ messages : List String, links = messages.map message := by
  constructor
  · exact fun h => ⟨_, eq_messages (List.findSome?_eq_none_iff.1 h)⟩
  · rintro ⟨messages, rfl⟩
    exact findSome?_messages messages

theorem map_text_messages (messages : List String) :
    (messages.map message).map text = messages := by
  rw [List.map_map]
  exact List.map_id messages

end Template.Link

/-! ### Reports -/

namespace RenderError

variable {template : String} {links : List Link}

/-- **The first tag error is reported**, and nothing else is. -/
theorem ofLinks_eq_tag_iff {e : TagError} :
    ofLinks template links = .tag template e ↔ ∃ (outer : List String) (inner : List Link),
      links = outer.map .message ++ .refusal e :: inner := by
  rw [← Link.findSome?_refusal?_eq_some_iff, ofLinks]
  split
  · rename_i e' he
    rw [he, tag.injEq, Option.some.injEq]
    exact and_iff_right rfl
  · rename_i he
    simp [he]

/-- **Without a tag error, all messages are reported.** -/
theorem ofLinks_eq_evaluation_iff {text : String} :
    ofLinks template links = .evaluation template text ↔ ∃ messages : List String,
      links = messages.map .message ∧ text = String.intercalate ": " messages := by
  constructor
  · intro h
    rw [ofLinks] at h
    split at h
    · cases h
    · rename_i hnone
      obtain ⟨messages, rfl⟩ := Link.findSome?_refusal?_eq_none_iff.1 hnone
      rw [Link.map_text_messages] at h
      cases h
      exact ⟨messages, rfl, rfl⟩
  · rintro ⟨messages, rfl, rfl⟩
    rw [ofLinks, Link.findSome?_messages, Link.map_text_messages]

theorem isInvalidAttribute_ofLinks :
    (ofLinks template links).isInvalidAttribute = true ↔
      ∃ tag attr reason, ofLinks template links =
        .tag template (.invalidAttributeValue tag attr reason) := by
  constructor
  · intro h
    unfold ofLinks at h ⊢
    split at h
    · rename_i e _
      cases e with
      | invalidAttributeValue tag attr reason => exact ⟨tag, attr, reason, rfl⟩
      | _ => cases h
    · cases h
  · rintro ⟨tag, attr, reason, h⟩
    rw [h]
    rfl

end RenderError

/-! ### Faults -/

namespace Template

/-- The tag error of a chain is the first one among its errors. -/
theorem Chain.findSome?_links (c : Chain) : c.links.findSome? Link.refusal? = c.cause := by
  rw [links, List.findSome?_append, Link.findSome?_messages, Option.none_or]
  cases c.cause with
  | none => rfl
  | some e => rfl

/-- The report of a fault is about a tag error exactly if a refusal is nested in the fault. -/
theorem ofChain_eq_tag_iff {template : String} {fault : Fault} {e : TagError} (message : String) :
    RenderError.ofChain template (fault.chain.under message) = .tag template e ↔
      ∃ tag, Fault.Nested (.refused tag e) fault := by
  rw [RenderError.ofChain, RenderError.ofLinks_eq_tag_iff, ← Link.findSome?_refusal?_eq_some_iff,
    Chain.findSome?_links, Chain.cause_under, Fault.cause_chain_iff]

/-! ### Calls -/

/-- The tag refuses the call, for its values or while it is rendered. -/
inductive Refuses (r : Registry) (tag : String) (args : Values) (body : Option String) :
    TagError → Prop where
  | values {e : TagError} (h : callOf tag (.ofList args) = .error e) : Refuses r tag args body e
  | rendering {e : TagError} (call : Call) (hcall : callOf tag (.ofList args) = .ok call)
      (h : r.renderExpr tag call (body.map Markup.textBlock) = .error e) : Refuses r tag args body e

variable {r : Registry} {tag : String} {args : Values} {body : Option String} {fault : Fault}

/-- **The fault of a tag is its error**, behind the name of the tag. -/
theorem tagText_eq_error_iff :
    tagText r tag args body = .error fault ↔
      ∃ e, fault = .refused tag e ∧ Refuses r tag args body e := by
  unfold tagText
  constructor
  · intro h
    split at h
    · rename_i e hcall
      exact ⟨e, (Except.error.inj h).symm, .values hcall⟩
    · rename_i call hcall
      split at h
      · rename_i e hrender
        exact ⟨e, (Except.error.inj h).symm, .rendering call hcall hrender⟩
      · cases h
  · rintro ⟨e, rfl, hrefuses⟩
    cases hrefuses with
    | values hcall => rw [hcall]
    | rendering call hcall hrender => simp only [hcall, hrender]

end Template

/-! ### Failures -/

namespace Compile

/-- A failure is about an attribute exactly if the first tag error is. -/
theorem kind_ofRendering_ofLinks (source : Path) (template : String) (links : List Link) :
    (Failure.ofRendering source (.ofLinks template links)).kind = .invalidAttribute ↔
      ∃ (outer : List String) (tag attr reason : String) (inner : List Link),
        links = outer.map .message ++
          .refusal (.invalidAttributeValue tag attr reason) :: inner := by
  rw [Failure.kind_ofRendering, RenderError.isInvalidAttribute_ofLinks]
  simp only [RenderError.ofLinks_eq_tag_iff]
  constructor
  · rintro ⟨tag, attr, reason, outer, inner, h⟩
    exact ⟨outer, tag, attr, reason, inner, h⟩
  · rintro ⟨outer, tag, attr, reason, inner, h⟩
    exact ⟨tag, attr, reason, outer, inner, h⟩

variable {plan : Plan} {job : Job} {text : String} {nodes : List Node}

/-- What a template can refer to in a run. -/
def Plan.settingOf (plan : Plan) (job : Job) : Setting :=
  ⟨plan.registry, plan.varsOf job, job.sourceName plan.root⟩

/-- The failure of a template that ends in a fault. -/
theorem evaluate_eq_error {fault : Fault} (hparse : parse text = some nodes)
    (h : renderNodes (plan.settingOf job) nodes = .error fault) :
    plan.evaluate job text = .error (.ofRendering job.source
      (.ofChain (plan.settingOf job).name
        (fault.chain.under (whileRendering (plan.settingOf job).name)))) := by
  have h' : renderNodes ⟨plan.registry, plan.varsOf job, job.sourceName plan.root⟩ nodes =
      .error fault := h
  rw [Plan.evaluate, render, hparse]
  dsimp only
  rw [h']
  rfl

/-- **The law of reports.**  A chain of errors with a tag error in it is reported by this error, at
whatever depth it stands, and a chain without one by all messages in order; the failure is about an
attribute exactly if the tag error is.  The only faults of tags are their errors, and when such a
fault is raised in a template, the report is about the error. -/
theorem tag_errors_surface :
    (∀ (template : String) (links : List Link) (source : Path),
      let report := RenderError.ofLinks template links
      let failure := Failure.ofRendering source report
      (∀ e, report = .tag template e ↔ ∃ (outer : List String) (inner : List Link),
        links = outer.map .message ++ .refusal e :: inner) ∧
      (∀ message, report = .evaluation template message ↔ ∃ messages : List String,
        links = messages.map .message ∧ message = String.intercalate ": " messages) ∧
      (failure.kind = .invalidAttribute ↔
        ∃ (outer : List String) (tag attr reason : String) (inner : List Link),
          links = outer.map .message ++
            .refusal (.invalidAttributeValue tag attr reason) :: inner) ∧
      (failure.kind = .invalidAttribute ∨ failure.kind = .evaluation)) ∧
    (∀ (r : Registry) (tag : String), r.contains tag = true → ∃ f, functionNamed r tag = .ok f ∧
      ∀ args fault, f args = .error fault ↔
        ∃ e, fault = .refused tag e ∧ Refuses r tag args none e) ∧
    (∀ (r : Registry) (tag : String), isTagFilter r tag = true → ∃ f, filterNamed r tag = .ok f ∧
      ∀ body args fault, f (.string body) args = .error fault ↔
        ∃ e, fault = .refused tag e ∧ Refuses r tag args (some body) e) ∧
    ∀ (plan : Plan) (job : Job) (text : String) (nodes : List Node), parse text = some nodes →
      let s := plan.settingOf job
      (∀ tag e, Raises s (.refused tag e) nodes →
        plan.evaluate job text = .error (.ofRendering job.source (.tag s.name e))) ∧
      ∀ fault, renderNodes s nodes = .error fault → ∃ report,
        plan.evaluate job text = .error (.ofRendering job.source report) ∧
        ∀ e, report = .tag s.name e ↔ ∃ tag, Fault.Nested (.refused tag e) fault := by
  refine ⟨fun template links source => ⟨fun e => RenderError.ofLinks_eq_tag_iff,
    fun message => RenderError.ofLinks_eq_evaluation_iff,
    kind_ofRendering_ofLinks source template links, ?_⟩, fun r tag htag => ?_, fun r tag htag => ?_,
    fun plan job text nodes hparse => ⟨fun tag e hraises => ?_, fun fault hfault => ?_⟩⟩
  · unfold Failure.ofRendering
    split
    · exact .inl rfl
    · exact .inr rfl
  · exact ⟨_, functionNamed_tag htag, fun args fault => tagText_eq_error_iff⟩
  · obtain ⟨f, hf, htext⟩ := filterNamed_tag htag
    exact ⟨f, hf, fun body args fault => by rw [htext, tagText_eq_error_iff]⟩
  · obtain ⟨outer, houter, hnested⟩ := renderNodes_of_raises hraises
    rw [evaluate_eq_error hparse houter, (ofChain_eq_tag_iff _).2 ⟨tag, hnested⟩]
  · exact ⟨_, evaluate_eq_error hparse hfault, fun e => ofChain_eq_tag_iff _⟩

/-- A template in which a call is refused inside of two others. -/
def refusing : String := "\x7b\x7b form(name=view(title=[]) | upper) \x7d\x7d"

/-- The call that is refused. -/
def refusedView : Term := .call "view" [("title", .array [])]

/-- Whether these are the nodes of `refusing`.  Terms hold doubles, so their equality cannot be
decided. -/
def isRefusing : Option (List Node) → Bool
  | some [.output (.call f [(key, .filtered (.call g [(key', .array [])]) filter [])])] =>
    [f, key, g, key', filter] == ["form", "name", "view", "title", "upper"]
  | _ => false

theorem parse_refusing :
    parse refusing =
      some [.output (.call "form" [("name", .filtered refusedView "upper" [])])] := by
  have h : isRefusing (parse refusing) = true := by decide +kernel
  unfold isRefusing at h
  split at h
  case h_1 hparse =>
    simp only [beq_iff_eq, List.cons.injEq, and_true] at h
    obtain ⟨rfl, rfl, rfl, rfl, rfl⟩ := h
    exact hparse
  case h_2 => cases h

/-- A run with the tags that every template may call. -/
def plainPlan : Plan := ⟨⟨"views"⟩, Registry.standard, ⟨[], []⟩⟩

/-- The refusal is reported from inside of the calls; messages around an error do not change the
kind of the failure, and without an error they are all reported. -/
theorem tag_errors_surface_refusing :
    let job : Job := ⟨⟨"views/a.jelly.tera"⟩, ⟨"views/a.jelly"⟩⟩
    let error := TagError.invalidAttributeValue "view" "title" "array"
    plainPlan.evaluate job refusing =
      .error (.ofRendering job.source (.tag "a.jelly.tera" error)) ∧
    (Failure.ofRendering job.source
      (.ofLinks "a" [.message "f", .message "g", .refusal error])).kind = .invalidAttribute ∧
    RenderError.ofLinks "a" [.message "f", .message "g"] = .evaluation "a" "f: g" := by
  intro job error
  obtain ⟨hreports, hfunction, -, htemplates⟩ := tag_errors_surface
  refine ⟨?_, ?_, ?_⟩
  · let s := plainPlan.settingOf job
    obtain ⟨form, hform, -⟩ := hfunction s.registry "form" (by decide)
    obtain ⟨view, hview, hfault⟩ := hfunction s.registry "view" (by decide)
    have hvalues : callOf "view" (.ofList [("title", .array [])]) = .error error := by
      change addArguments "view" ∅ ([("title", Json.array [])].mergeSort _) = _
      rw [List.mergeSort_singleton]
      rfl
    have hrefused : view [("title", .array [])] = .error (.refused "view" error) :=
      (hfault _ _).2 ⟨error, rfl, .values hvalues⟩
    have hcall : refusedView.Raises s (.refused "view" error) := .called "view" hview rfl hrefused
    have houter : (Term.call "form" [("name", .filtered refusedView "upper" [])]).Raises s
        (.refused "view" error) :=
      @Term.Raises.argument s _ "form" "name" _ [] [] form [] hform rfl (.filtered rfl hcall)
    have hraises := @Raises.output s _ _ [] [] "" rfl houter
    have hname : s.name = "a.jelly.tera" := by decide
    rw [← hname]
    exact (htemplates plainPlan job _ _ parse_refusing).1 "view" error hraises
  · obtain ⟨-, -, hkind, -⟩ := hreports "a" [.message "f", .message "g", .refusal error] job.source
    exact hkind.2 ⟨["f", "g"], _, _, _, [], rfl⟩
  · obtain ⟨-, hmessages, -⟩ := hreports "a" [.message "f", .message "g"] job.source
    exact (hmessages "f: g").2 ⟨["f", "g"], rfl, rfl⟩

end Compile

end JellyViews
