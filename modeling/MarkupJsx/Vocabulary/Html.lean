import MarkupJsx.Vocabulary.Basic

/-!
# The properties of HTML

An attribute of HTML is written in small letters.  Its name is that of the property without
capitals, apart from four that hold a hyphen or are reserved words of scripts.  The rows from
`align` on are obsolete or never were part of a standard.
-/

namespace MarkupJsx
namespace Vocabulary

/-- The properties of HTML. -/
def htmlProperties : List PropertyInfo := [
  ⟨"abbr", "abbr", some .html, []⟩,
  ⟨"accept", "accept", some .html, [.commaSeparated]⟩,
  ⟨"acceptCharset", "accept-charset", some .html, [.spaceSeparated]⟩,
  ⟨"accessKey", "accesskey", some .html, [.spaceSeparated]⟩,
  ⟨"action", "action", some .html, []⟩,
  ⟨"allow", "allow", some .html, []⟩,
  ⟨"allowFullScreen", "allowfullscreen", some .html, [.boolean]⟩,
  ⟨"allowPaymentRequest", "allowpaymentrequest", some .html, [.boolean]⟩,
  ⟨"allowUserMedia", "allowusermedia", some .html, [.boolean]⟩,
  ⟨"alt", "alt", some .html, []⟩,
  ⟨"as", "as", some .html, []⟩,
  ⟨"async", "async", some .html, [.boolean]⟩,
  ⟨"autoCapitalize", "autocapitalize", some .html, []⟩,
  ⟨"autoComplete", "autocomplete", some .html, [.spaceSeparated]⟩,
  ⟨"autoFocus", "autofocus", some .html, [.boolean]⟩,
  ⟨"autoPlay", "autoplay", some .html, [.boolean]⟩,
  ⟨"blocking", "blocking", some .html, [.spaceSeparated]⟩,
  ⟨"capture", "capture", some .html, []⟩,
  ⟨"charSet", "charset", some .html, []⟩,
  ⟨"checked", "checked", some .html, [.boolean]⟩,
  ⟨"cite", "cite", some .html, []⟩,
  ⟨"className", "class", some .html, [.spaceSeparated]⟩,
  ⟨"cols", "cols", some .html, [.number]⟩,
  ⟨"colSpan", "colspan", some .html, []⟩,
  ⟨"content", "content", some .html, []⟩,
  ⟨"contentEditable", "contenteditable", some .html, [.booleanish]⟩,
  ⟨"controls", "controls", some .html, [.boolean]⟩,
  ⟨"controlsList", "controlslist", some .html, [.spaceSeparated]⟩,
  ⟨"coords", "coords", some .html, [.number, .commaSeparated]⟩,
  ⟨"crossOrigin", "crossorigin", some .html, []⟩,
  ⟨"data", "data", some .html, []⟩,
  ⟨"dateTime", "datetime", some .html, []⟩,
  ⟨"decoding", "decoding", some .html, []⟩,
  ⟨"default", "default", some .html, [.boolean]⟩,
  ⟨"defer", "defer", some .html, [.boolean]⟩,
  ⟨"dir", "dir", some .html, []⟩,
  ⟨"dirName", "dirname", some .html, []⟩,
  ⟨"disabled", "disabled", some .html, [.boolean]⟩,
  ⟨"download", "download", some .html, [.overloadedBoolean]⟩,
  ⟨"draggable", "draggable", some .html, [.booleanish]⟩,
  ⟨"encType", "enctype", some .html, []⟩,
  ⟨"enterKeyHint", "enterkeyhint", some .html, []⟩,
  ⟨"fetchPriority", "fetchpriority", some .html, []⟩,
  ⟨"form", "form", some .html, []⟩,
  ⟨"formAction", "formaction", some .html, []⟩,
  ⟨"formEncType", "formenctype", some .html, []⟩,
  ⟨"formMethod", "formmethod", some .html, []⟩,
  ⟨"formNoValidate", "formnovalidate", some .html, [.boolean]⟩,
  ⟨"formTarget", "formtarget", some .html, []⟩,
  ⟨"headers", "headers", some .html, [.spaceSeparated]⟩,
  ⟨"height", "height", some .html, [.number]⟩,
  ⟨"hidden", "hidden", some .html, [.boolean]⟩,
  ⟨"high", "high", some .html, [.number]⟩,
  ⟨"href", "href", some .html, []⟩,
  ⟨"hrefLang", "hreflang", some .html, []⟩,
  ⟨"htmlFor", "for", some .html, [.spaceSeparated]⟩,
  ⟨"httpEquiv", "http-equiv", some .html, [.spaceSeparated]⟩,
  ⟨"id", "id", some .html, []⟩,
  ⟨"imageSizes", "imagesizes", some .html, []⟩,
  ⟨"imageSrcSet", "imagesrcset", some .html, [.commaSeparated]⟩,
  ⟨"inert", "inert", some .html, [.boolean]⟩,
  ⟨"inputMode", "inputmode", some .html, []⟩,
  ⟨"integrity", "integrity", some .html, []⟩,
  ⟨"is", "is", some .html, []⟩,
  ⟨"isMap", "ismap", some .html, [.boolean]⟩,
  ⟨"itemId", "itemid", some .html, []⟩,
  ⟨"itemProp", "itemprop", some .html, [.spaceSeparated]⟩,
  ⟨"itemRef", "itemref", some .html, [.spaceSeparated]⟩,
  ⟨"itemScope", "itemscope", some .html, [.boolean]⟩,
  ⟨"itemType", "itemtype", some .html, [.spaceSeparated]⟩,
  ⟨"kind", "kind", some .html, []⟩,
  ⟨"label", "label", some .html, []⟩,
  ⟨"lang", "lang", some .html, []⟩,
  ⟨"language", "language", some .html, []⟩,
  ⟨"list", "list", some .html, []⟩,
  ⟨"loading", "loading", some .html, []⟩,
  ⟨"loop", "loop", some .html, [.boolean]⟩,
  ⟨"low", "low", some .html, [.number]⟩,
  ⟨"manifest", "manifest", some .html, []⟩,
  ⟨"max", "max", some .html, []⟩,
  ⟨"maxLength", "maxlength", some .html, [.number]⟩,
  ⟨"media", "media", some .html, []⟩,
  ⟨"method", "method", some .html, []⟩,
  ⟨"min", "min", some .html, []⟩,
  ⟨"minLength", "minlength", some .html, [.number]⟩,
  ⟨"multiple", "multiple", some .html, [.boolean]⟩,
  ⟨"muted", "muted", some .html, [.boolean]⟩,
  ⟨"name", "name", some .html, []⟩,
  ⟨"nonce", "nonce", some .html, []⟩,
  ⟨"noModule", "nomodule", some .html, [.boolean]⟩,
  ⟨"noValidate", "novalidate", some .html, [.boolean]⟩,
  ⟨"onAbort", "onabort", some .html, []⟩,
  ⟨"onAfterPrint", "onafterprint", some .html, []⟩,
  ⟨"onAuxClick", "onauxclick", some .html, []⟩,
  ⟨"onBeforeMatch", "onbeforematch", some .html, []⟩,
  ⟨"onBeforePrint", "onbeforeprint", some .html, []⟩,
  ⟨"onBeforeToggle", "onbeforetoggle", some .html, []⟩,
  ⟨"onBeforeUnload", "onbeforeunload", some .html, []⟩,
  ⟨"onBlur", "onblur", some .html, []⟩,
  ⟨"onCancel", "oncancel", some .html, []⟩,
  ⟨"onCanPlay", "oncanplay", some .html, []⟩,
  ⟨"onCanPlayThrough", "oncanplaythrough", some .html, []⟩,
  ⟨"onChange", "onchange", some .html, []⟩,
  ⟨"onClick", "onclick", some .html, []⟩,
  ⟨"onClose", "onclose", some .html, []⟩,
  ⟨"onContextLost", "oncontextlost", some .html, []⟩,
  ⟨"onContextMenu", "oncontextmenu", some .html, []⟩,
  ⟨"onContextRestored", "oncontextrestored", some .html, []⟩,
  ⟨"onCopy", "oncopy", some .html, []⟩,
  ⟨"onCueChange", "oncuechange", some .html, []⟩,
  ⟨"onCut", "oncut", some .html, []⟩,
  ⟨"onDblClick", "ondblclick", some .html, []⟩,
  ⟨"onDrag", "ondrag", some .html, []⟩,
  ⟨"onDragEnd", "ondragend", some .html, []⟩,
  ⟨"onDragEnter", "ondragenter", some .html, []⟩,
  ⟨"onDragExit", "ondragexit", some .html, []⟩,
  ⟨"onDragLeave", "ondragleave", some .html, []⟩,
  ⟨"onDragOver", "ondragover", some .html, []⟩,
  ⟨"onDragStart", "ondragstart", some .html, []⟩,
  ⟨"onDrop", "ondrop", some .html, []⟩,
  ⟨"onDurationChange", "ondurationchange", some .html, []⟩,
  ⟨"onEmptied", "onemptied", some .html, []⟩,
  ⟨"onEnded", "onended", some .html, []⟩,
  ⟨"onError", "onerror", some .html, []⟩,
  ⟨"onFocus", "onfocus", some .html, []⟩,
  ⟨"onFormData", "onformdata", some .html, []⟩,
  ⟨"onHashChange", "onhashchange", some .html, []⟩,
  ⟨"onInput", "oninput", some .html, []⟩,
  ⟨"onInvalid", "oninvalid", some .html, []⟩,
  ⟨"onKeyDown", "onkeydown", some .html, []⟩,
  ⟨"onKeyPress", "onkeypress", some .html, []⟩,
  ⟨"onKeyUp", "onkeyup", some .html, []⟩,
  ⟨"onLanguageChange", "onlanguagechange", some .html, []⟩,
  ⟨"onLoad", "onload", some .html, []⟩,
  ⟨"onLoadedData", "onloadeddata", some .html, []⟩,
  ⟨"onLoadedMetadata", "onloadedmetadata", some .html, []⟩,
  ⟨"onLoadEnd", "onloadend", some .html, []⟩,
  ⟨"onLoadStart", "onloadstart", some .html, []⟩,
  ⟨"onMessage", "onmessage", some .html, []⟩,
  ⟨"onMessageError", "onmessageerror", some .html, []⟩,
  ⟨"onMouseDown", "onmousedown", some .html, []⟩,
  ⟨"onMouseEnter", "onmouseenter", some .html, []⟩,
  ⟨"onMouseLeave", "onmouseleave", some .html, []⟩,
  ⟨"onMouseMove", "onmousemove", some .html, []⟩,
  ⟨"onMouseOut", "onmouseout", some .html, []⟩,
  ⟨"onMouseOver", "onmouseover", some .html, []⟩,
  ⟨"onMouseUp", "onmouseup", some .html, []⟩,
  ⟨"onOffline", "onoffline", some .html, []⟩,
  ⟨"onOnline", "ononline", some .html, []⟩,
  ⟨"onPageHide", "onpagehide", some .html, []⟩,
  ⟨"onPageShow", "onpageshow", some .html, []⟩,
  ⟨"onPaste", "onpaste", some .html, []⟩,
  ⟨"onPause", "onpause", some .html, []⟩,
  ⟨"onPlay", "onplay", some .html, []⟩,
  ⟨"onPlaying", "onplaying", some .html, []⟩,
  ⟨"onPopState", "onpopstate", some .html, []⟩,
  ⟨"onProgress", "onprogress", some .html, []⟩,
  ⟨"onRateChange", "onratechange", some .html, []⟩,
  ⟨"onRejectionHandled", "onrejectionhandled", some .html, []⟩,
  ⟨"onReset", "onreset", some .html, []⟩,
  ⟨"onResize", "onresize", some .html, []⟩,
  ⟨"onScroll", "onscroll", some .html, []⟩,
  ⟨"onScrollEnd", "onscrollend", some .html, []⟩,
  ⟨"onSecurityPolicyViolation", "onsecuritypolicyviolation", some .html, []⟩,
  ⟨"onSeeked", "onseeked", some .html, []⟩,
  ⟨"onSeeking", "onseeking", some .html, []⟩,
  ⟨"onSelect", "onselect", some .html, []⟩,
  ⟨"onSlotChange", "onslotchange", some .html, []⟩,
  ⟨"onStalled", "onstalled", some .html, []⟩,
  ⟨"onStorage", "onstorage", some .html, []⟩,
  ⟨"onSubmit", "onsubmit", some .html, []⟩,
  ⟨"onSuspend", "onsuspend", some .html, []⟩,
  ⟨"onTimeUpdate", "ontimeupdate", some .html, []⟩,
  ⟨"onToggle", "ontoggle", some .html, []⟩,
  ⟨"onUnhandledRejection", "onunhandledrejection", some .html, []⟩,
  ⟨"onUnload", "onunload", some .html, []⟩,
  ⟨"onVolumeChange", "onvolumechange", some .html, []⟩,
  ⟨"onWaiting", "onwaiting", some .html, []⟩,
  ⟨"onWheel", "onwheel", some .html, []⟩,
  ⟨"open", "open", some .html, [.boolean]⟩,
  ⟨"optimum", "optimum", some .html, [.number]⟩,
  ⟨"pattern", "pattern", some .html, []⟩,
  ⟨"ping", "ping", some .html, [.spaceSeparated]⟩,
  ⟨"placeholder", "placeholder", some .html, []⟩,
  ⟨"playsInline", "playsinline", some .html, [.boolean]⟩,
  ⟨"popover", "popover", some .html, []⟩,
  ⟨"popoverTarget", "popovertarget", some .html, []⟩,
  ⟨"popoverTargetAction", "popovertargetaction", some .html, []⟩,
  ⟨"poster", "poster", some .html, []⟩,
  ⟨"preload", "preload", some .html, []⟩,
  ⟨"readOnly", "readonly", some .html, [.boolean]⟩,
  ⟨"referrerPolicy", "referrerpolicy", some .html, []⟩,
  ⟨"rel", "rel", some .html, [.spaceSeparated]⟩,
  ⟨"required", "required", some .html, [.boolean]⟩,
  ⟨"reversed", "reversed", some .html, [.boolean]⟩,
  ⟨"rows", "rows", some .html, [.number]⟩,
  ⟨"rowSpan", "rowspan", some .html, [.number]⟩,
  ⟨"sandbox", "sandbox", some .html, [.spaceSeparated]⟩,
  ⟨"scope", "scope", some .html, []⟩,
  ⟨"scoped", "scoped", some .html, [.boolean]⟩,
  ⟨"seamless", "seamless", some .html, [.boolean]⟩,
  ⟨"selected", "selected", some .html, [.boolean]⟩,
  ⟨"shadowRootClonable", "shadowrootclonable", some .html, [.boolean]⟩,
  ⟨"shadowRootDelegatesFocus", "shadowrootdelegatesfocus", some .html, [.boolean]⟩,
  ⟨"shadowRootMode", "shadowrootmode", some .html, []⟩,
  ⟨"shape", "shape", some .html, []⟩,
  ⟨"size", "size", some .html, [.number]⟩,
  ⟨"sizes", "sizes", some .html, []⟩,
  ⟨"slot", "slot", some .html, []⟩,
  ⟨"span", "span", some .html, [.number]⟩,
  ⟨"spellCheck", "spellcheck", some .html, [.booleanish]⟩,
  ⟨"src", "src", some .html, []⟩,
  ⟨"srcDoc", "srcdoc", some .html, []⟩,
  ⟨"srcLang", "srclang", some .html, []⟩,
  ⟨"srcSet", "srcset", some .html, [.commaSeparated]⟩,
  ⟨"start", "start", some .html, [.number]⟩,
  ⟨"step", "step", some .html, []⟩,
  ⟨"style", "style", some .html, []⟩,
  ⟨"tabIndex", "tabindex", some .html, [.number]⟩,
  ⟨"target", "target", some .html, []⟩,
  ⟨"title", "title", some .html, []⟩,
  ⟨"translate", "translate", some .html, []⟩,
  ⟨"type", "type", some .html, []⟩,
  ⟨"typeMustMatch", "typemustmatch", some .html, [.boolean]⟩,
  ⟨"useMap", "usemap", some .html, []⟩,
  ⟨"value", "value", some .html, [.booleanish]⟩,
  ⟨"width", "width", some .html, [.number]⟩,
  ⟨"wrap", "wrap", some .html, []⟩,
  ⟨"writingSuggestions", "writingsuggestions", some .html, []⟩,
  ⟨"align", "align", some .html, []⟩,
  ⟨"aLink", "alink", some .html, []⟩,
  ⟨"archive", "archive", some .html, [.spaceSeparated]⟩,
  ⟨"axis", "axis", some .html, []⟩,
  ⟨"background", "background", some .html, []⟩,
  ⟨"bgColor", "bgcolor", some .html, []⟩,
  ⟨"border", "border", some .html, [.number]⟩,
  ⟨"borderColor", "bordercolor", some .html, []⟩,
  ⟨"bottomMargin", "bottommargin", some .html, [.number]⟩,
  ⟨"cellPadding", "cellpadding", some .html, []⟩,
  ⟨"cellSpacing", "cellspacing", some .html, []⟩,
  ⟨"char", "char", some .html, []⟩,
  ⟨"charOff", "charoff", some .html, []⟩,
  ⟨"classId", "classid", some .html, []⟩,
  ⟨"clear", "clear", some .html, []⟩,
  ⟨"code", "code", some .html, []⟩,
  ⟨"codeBase", "codebase", some .html, []⟩,
  ⟨"codeType", "codetype", some .html, []⟩,
  ⟨"color", "color", some .html, []⟩,
  ⟨"compact", "compact", some .html, [.boolean]⟩,
  ⟨"declare", "declare", some .html, [.boolean]⟩,
  ⟨"event", "event", some .html, []⟩,
  ⟨"face", "face", some .html, []⟩,
  ⟨"frame", "frame", some .html, []⟩,
  ⟨"frameBorder", "frameborder", some .html, []⟩,
  ⟨"hSpace", "hspace", some .html, [.number]⟩,
  ⟨"leftMargin", "leftmargin", some .html, [.number]⟩,
  ⟨"link", "link", some .html, []⟩,
  ⟨"longDesc", "longdesc", some .html, []⟩,
  ⟨"lowSrc", "lowsrc", some .html, []⟩,
  ⟨"marginHeight", "marginheight", some .html, [.number]⟩,
  ⟨"marginWidth", "marginwidth", some .html, [.number]⟩,
  ⟨"noResize", "noresize", some .html, [.boolean]⟩,
  ⟨"noHref", "nohref", some .html, [.boolean]⟩,
  ⟨"noShade", "noshade", some .html, [.boolean]⟩,
  ⟨"noWrap", "nowrap", some .html, [.boolean]⟩,
  ⟨"object", "object", some .html, []⟩,
  ⟨"profile", "profile", some .html, []⟩,
  ⟨"prompt", "prompt", some .html, []⟩,
  ⟨"rev", "rev", some .html, []⟩,
  ⟨"rightMargin", "rightmargin", some .html, [.number]⟩,
  ⟨"rules", "rules", some .html, []⟩,
  ⟨"scheme", "scheme", some .html, []⟩,
  ⟨"scrolling", "scrolling", some .html, [.booleanish]⟩,
  ⟨"standby", "standby", some .html, []⟩,
  ⟨"summary", "summary", some .html, []⟩,
  ⟨"text", "text", some .html, []⟩,
  ⟨"topMargin", "topmargin", some .html, [.number]⟩,
  ⟨"valueType", "valuetype", some .html, []⟩,
  ⟨"version", "version", some .html, []⟩,
  ⟨"vAlign", "valign", some .html, []⟩,
  ⟨"vLink", "vlink", some .html, []⟩,
  ⟨"vSpace", "vspace", some .html, [.number]⟩,
  ⟨"allowTransparency", "allowtransparency", some .html, []⟩,
  ⟨"autoCorrect", "autocorrect", some .html, []⟩,
  ⟨"autoSave", "autosave", some .html, []⟩,
  ⟨"disablePictureInPicture", "disablepictureinpicture", some .html, [.boolean]⟩,
  ⟨"disableRemotePlayback", "disableremoteplayback", some .html, [.boolean]⟩,
  ⟨"prefix", "prefix", some .html, []⟩,
  ⟨"property", "property", some .html, []⟩,
  ⟨"results", "results", some .html, [.number]⟩,
  ⟨"security", "security", some .html, []⟩,
  ⟨"unselectable", "unselectable", some .html, []⟩]

end Vocabulary
end MarkupJsx
