import MarkupJsx.Vocabulary.Basic

/-!
# The properties that HTML and SVG share

These are the attributes of the three XML spaces and the attributes of accessibility.  The latter
belong to no space, so that they keep their attribute names in every fashion of writing.
-/

namespace MarkupJsx
namespace Vocabulary

/-- The attributes `xml:*`. -/
def xmlProperties : List PropertyInfo := [
  ⟨"xmlBase", "xml:base", some .xml, []⟩,
  ⟨"xmlLang", "xml:lang", some .xml, []⟩,
  ⟨"xmlSpace", "xml:space", some .xml, []⟩]

/-- The attributes `xlink:*`. -/
def xlinkProperties : List PropertyInfo := [
  ⟨"xLinkActuate", "xlink:actuate", some .xlink, []⟩,
  ⟨"xLinkArcRole", "xlink:arcrole", some .xlink, []⟩,
  ⟨"xLinkHref", "xlink:href", some .xlink, []⟩,
  ⟨"xLinkRole", "xlink:role", some .xlink, []⟩,
  ⟨"xLinkShow", "xlink:show", some .xlink, []⟩,
  ⟨"xLinkTitle", "xlink:title", some .xlink, []⟩,
  ⟨"xLinkType", "xlink:type", some .xlink, []⟩]

/-- The attributes that declare a space. -/
def xmlnsProperties : List PropertyInfo := [
  ⟨"xmlns", "xmlns", some .xmlns, []⟩,
  ⟨"xmlnsXLink", "xmlns:xlink", some .xmlns, []⟩]

/-- The attributes `aria-*`, and `role`. -/
def ariaProperties : List PropertyInfo := [
  ⟨"ariaActiveDescendant", "aria-activedescendant", none, []⟩,
  ⟨"ariaAtomic", "aria-atomic", none, [.booleanish]⟩,
  ⟨"ariaAutoComplete", "aria-autocomplete", none, []⟩,
  ⟨"ariaBusy", "aria-busy", none, [.booleanish]⟩,
  ⟨"ariaChecked", "aria-checked", none, [.booleanish]⟩,
  ⟨"ariaColCount", "aria-colcount", none, [.number]⟩,
  ⟨"ariaColIndex", "aria-colindex", none, [.number]⟩,
  ⟨"ariaColSpan", "aria-colspan", none, [.number]⟩,
  ⟨"ariaControls", "aria-controls", none, [.spaceSeparated]⟩,
  ⟨"ariaCurrent", "aria-current", none, []⟩,
  ⟨"ariaDescribedBy", "aria-describedby", none, [.spaceSeparated]⟩,
  ⟨"ariaDetails", "aria-details", none, []⟩,
  ⟨"ariaDisabled", "aria-disabled", none, [.booleanish]⟩,
  ⟨"ariaDropEffect", "aria-dropeffect", none, [.spaceSeparated]⟩,
  ⟨"ariaErrorMessage", "aria-errormessage", none, []⟩,
  ⟨"ariaExpanded", "aria-expanded", none, [.booleanish]⟩,
  ⟨"ariaFlowTo", "aria-flowto", none, [.spaceSeparated]⟩,
  ⟨"ariaGrabbed", "aria-grabbed", none, [.booleanish]⟩,
  ⟨"ariaHasPopup", "aria-haspopup", none, []⟩,
  ⟨"ariaHidden", "aria-hidden", none, [.booleanish]⟩,
  ⟨"ariaInvalid", "aria-invalid", none, []⟩,
  ⟨"ariaKeyShortcuts", "aria-keyshortcuts", none, []⟩,
  ⟨"ariaLabel", "aria-label", none, []⟩,
  ⟨"ariaLabelledBy", "aria-labelledby", none, [.spaceSeparated]⟩,
  ⟨"ariaLevel", "aria-level", none, [.number]⟩,
  ⟨"ariaLive", "aria-live", none, []⟩,
  ⟨"ariaModal", "aria-modal", none, [.booleanish]⟩,
  ⟨"ariaMultiLine", "aria-multiline", none, [.booleanish]⟩,
  ⟨"ariaMultiSelectable", "aria-multiselectable", none, [.booleanish]⟩,
  ⟨"ariaOrientation", "aria-orientation", none, []⟩,
  ⟨"ariaOwns", "aria-owns", none, [.spaceSeparated]⟩,
  ⟨"ariaPlaceholder", "aria-placeholder", none, []⟩,
  ⟨"ariaPosInSet", "aria-posinset", none, [.number]⟩,
  ⟨"ariaPressed", "aria-pressed", none, [.booleanish]⟩,
  ⟨"ariaReadOnly", "aria-readonly", none, [.booleanish]⟩,
  ⟨"ariaRelevant", "aria-relevant", none, []⟩,
  ⟨"ariaRequired", "aria-required", none, [.booleanish]⟩,
  ⟨"ariaRoleDescription", "aria-roledescription", none, [.spaceSeparated]⟩,
  ⟨"ariaRowCount", "aria-rowcount", none, [.number]⟩,
  ⟨"ariaRowIndex", "aria-rowindex", none, [.number]⟩,
  ⟨"ariaRowSpan", "aria-rowspan", none, [.number]⟩,
  ⟨"ariaSelected", "aria-selected", none, [.booleanish]⟩,
  ⟨"ariaSetSize", "aria-setsize", none, [.number]⟩,
  ⟨"ariaSort", "aria-sort", none, []⟩,
  ⟨"ariaValueMax", "aria-valuemax", none, [.number]⟩,
  ⟨"ariaValueMin", "aria-valuemin", none, [.number]⟩,
  ⟨"ariaValueNow", "aria-valuenow", none, [.number]⟩,
  ⟨"ariaValueText", "aria-valuetext", none, []⟩,
  ⟨"role", "role", none, []⟩]

/-- The properties of both vocabularies. -/
def sharedProperties : List PropertyInfo :=
  xmlProperties ++ xlinkProperties ++ xmlnsProperties ++ ariaProperties

end Vocabulary
end MarkupJsx
