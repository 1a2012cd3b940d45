/-
**The operations that every template may call.**

The root element of a view, two loops, form inputs, containers and widgets.

Main definitions:

* `Tag.viewNamespaces` — the namespace declarations of the root element;
* `Tag.vocabulary` — the operations.
-/

import JellyViews.Tag.Operation

set_option relaxedAutoImplicit false
set_option autoImplicit false

namespace JellyViews

namespace Tag

/-- The namespace declarations of the root element of a view. -/
def viewNamespaces : Attributes :=
  OrderedMap.ofList
    [("xmlns:j", "jelly:core"), ("xmlns:st", "jelly:stapler"), ("xmlns:d", "jelly:define"),
     ("xmlns:l", "/lib/layout"), ("xmlns:t", "/lib/hudson"), ("xmlns:f", "/lib/form")]

/-- The root element of a view. -/
def view : Operation :=
  .element { Element.plain "view" "j:jelly" .block with defaults := viewNamespaces }

/-- A form input whose value is shown by the attribute. -/
def input (name valueAttr : String) : Operation := .field (Field.named name valueAttr)

/-- A form element with parameters. -/
def formElement (name : String) (shape : Shape) (params : List Param) : Operation :=
  .element { Element.named Naming.formNamespace name shape with params := params }

/-- The operations that every template may call. -/
def vocabulary : List Operation :=
  [view,
   .forEach,
   .optionsFor,
   input "textbox" "value",
   input "expandable_textbox" "value",
   input "textarea" "value",
   input "checkbox" "checked",
   formElement "entry" .block [.required "name"],
   formElement "section" .block [.optional "title"],
   formElement "advanced" .block [],
   formElement "block" .block [],
   formElement "optional_block" .block
     [.required "name", .required "title", .defaulted "checked" "false"],
   formElement "form" .block [.required "name", .required "action", .defaulted "method" "post"],
   formElement "validate_button" .void
     [.required "title", .required "with", .defaulted "method" "validate",
      .defaulted "progress" ""],
   formElement "boolean_radio" .void
     [.required "field",
      (Param.defaulted "false_label" "No").writtenAs "false",
      (Param.defaulted "true_label" "Yes").writtenAs "true"],
   formElement "combobox" .void [.required "field", .optional "clazz"],
   formElement "submit" .void [.required "value", .optional "name"]]

end Tag

end JellyViews
