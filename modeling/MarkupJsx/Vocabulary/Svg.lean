import MarkupJsx.Vocabulary.Basic

/-!
# The properties of SVG

Attributes of SVG tell capitals from small letters.  Most are written like their property, the
presentation attributes with hyphens, and event handlers in small letters.
-/

namespace MarkupJsx
namespace Vocabulary

/-- The properties of SVG. -/
def svgProperties : List PropertyInfo := [
  ⟨"about", "about", some .svg, [.commaOrSpaceSeparated]⟩,
  ⟨"accentHeight", "accent-height", some .svg, [.number]⟩,
  ⟨"accumulate", "accumulate", some .svg, []⟩,
  ⟨"additive", "additive", some .svg, []⟩,
  ⟨"alignmentBaseline", "alignment-baseline", some .svg, []⟩,
  ⟨"alphabetic", "alphabetic", some .svg, [.number]⟩,
  ⟨"amplitude", "amplitude", some .svg, [.number]⟩,
  ⟨"arabicForm", "arabic-form", some .svg, []⟩,
  ⟨"ascent", "ascent", some .svg, [.number]⟩,
  ⟨"attributeName", "attributeName", some .svg, []⟩,
  ⟨"attributeType", "attributeType", some .svg, []⟩,
  ⟨"azimuth", "azimuth", some .svg, [.number]⟩,
  ⟨"bandwidth", "bandwidth", some .svg, []⟩,
  ⟨"baselineShift", "baseline-shift", some .svg, []⟩,
  ⟨"baseFrequency", "baseFrequency", some .svg, []⟩,
  ⟨"baseProfile", "baseProfile", some .svg, []⟩,
  ⟨"bbox", "bbox", some .svg, []⟩,
  ⟨"begin", "begin", some .svg, []⟩,
  ⟨"bias", "bias", some .svg, [.number]⟩,
  ⟨"by", "by", some .svg, []⟩,
  ⟨"calcMode", "calcMode", some .svg, []⟩,
  ⟨"capHeight", "cap-height", some .svg, [.number]⟩,
  ⟨"className", "class", some .svg, [.spaceSeparated]⟩,
  ⟨"clip", "clip", some .svg, []⟩,
  ⟨"clipPath", "clip-path", some .svg, []⟩,
  ⟨"clipPathUnits", "clipPathUnits", some .svg, []⟩,
  ⟨"clipRule", "clip-rule", some .svg, []⟩,
  ⟨"color", "color", some .svg, []⟩,
  ⟨"colorInterpolation", "color-interpolation", some .svg, []⟩,
  ⟨"colorInterpolationFilters", "color-interpolation-filters", some .svg, []⟩,
  ⟨"colorProfile", "color-profile", some .svg, []⟩,
  ⟨"colorRendering", "color-rendering", some .svg, []⟩,
  ⟨"content", "content", some .svg, []⟩,
  ⟨"contentScriptType", "contentScriptType", some .svg, []⟩,
  ⟨"contentStyleType", "contentStyleType", some .svg, []⟩,
  ⟨"crossOrigin", "crossorigin", some .svg, []⟩,
  ⟨"cursor", "cursor", some .svg, []⟩,
  ⟨"cx", "cx", some .svg, []⟩,
  ⟨"cy", "cy", some .svg, []⟩,
  ⟨"d", "d", some .svg, []⟩,
  ⟨"dataType", "datatype", some .svg, []⟩,
  ⟨"defaultAction", "defaultAction", some .svg, []⟩,
  ⟨"descent", "descent", some .svg, [.number]⟩,
  ⟨"diffuseConstant", "diffuseConstant", some .svg, [.number]⟩,
  ⟨"direction", "direction", some .svg, []⟩,
  ⟨"display", "display", some .svg, []⟩,
  ⟨"dur", "dur", some .svg, []⟩,
  ⟨"divisor", "divisor", some .svg, [.number]⟩,
  ⟨"dominantBaseline", "dominant-baseline", some .svg, []⟩,
  ⟨"download", "download", some .svg, [.boolean]⟩,
  ⟨"dx", "dx", some .svg, []⟩,
  ⟨"dy", "dy", some .svg, []⟩,
  ⟨"edgeMode", "edgeMode", some .svg, []⟩,
  ⟨"editable", "editable", some .svg, []⟩,
  ⟨"elevation", "elevation", some .svg, [.number]⟩,
  ⟨"enableBackground", "enable-background", some .svg, []⟩,
  ⟨"end", "end", some .svg, []⟩,
  ⟨"event", "event", some .svg, []⟩,
  ⟨"exponent", "exponent", some .svg, [.number]⟩,
  ⟨"externalResourcesRequired", "externalResourcesRequired", some .svg, []⟩,
  ⟨"fill", "fill", some .svg, []⟩,
  ⟨"fillOpacity", "fill-opacity", some .svg, [.number]⟩,
  ⟨"fillRule", "fill-rule", some .svg, []⟩,
  ⟨"filter", "filter", some .svg, []⟩,
  ⟨"filterRes", "filterRes", some .svg, []⟩,
  ⟨"filterUnits", "filterUnits", some .svg, []⟩,
  ⟨"floodColor", "flood-color", some .svg, []⟩,
  ⟨"floodOpacity", "flood-opacity", some .svg, []⟩,
  ⟨"focusable", "focusable", some .svg, []⟩,
  ⟨"focusHighlight", "focusHighlight", some .svg, []⟩,
  ⟨"fontFamily", "font-family", some .svg, []⟩,
  ⟨"fontSize", "font-size", some .svg, []⟩,
  ⟨"fontSizeAdjust", "font-size-adjust", some .svg, []⟩,
  ⟨"fontStretch", "font-stretch", some .svg, []⟩,
  ⟨"fontStyle", "font-style", some .svg, []⟩,
  ⟨"fontVariant", "font-variant", some .svg, []⟩,
  ⟨"fontWeight", "font-weight", some .svg, []⟩,
  ⟨"format", "format", some .svg, []⟩,
  ⟨"fr", "fr", some .svg, []⟩,
  ⟨"from", "from", some .svg, []⟩,
  ⟨"fx", "fx", some .svg, []⟩,
  ⟨"fy", "fy", some .svg, []⟩,
  ⟨"g1", "g1", some .svg, [.commaSeparated]⟩,
  ⟨"g2", "g2", some .svg, [.commaSeparated]⟩,
  ⟨"glyphName", "glyph-name", some .svg, [.commaSeparated]⟩,
  ⟨"glyphOrientationHorizontal", "glyph-orientation-horizontal", some .svg, []⟩,
  ⟨"glyphOrientationVertical", "glyph-orientation-vertical", some .svg, []⟩,
  ⟨"glyphRef", "glyphRef", some .svg, []⟩,
  ⟨"gradientTransform", "gradientTransform", some .svg, []⟩,
  ⟨"gradientUnits", "gradientUnits", some .svg, []⟩,
  ⟨"handler", "handler", some .svg, []⟩,
  ⟨"hanging", "hanging", some .svg, [.number]⟩,
  ⟨"hatchContentUnits", "hatchContentUnits", some .svg, []⟩,
  ⟨"hatchUnits", "hatchUnits", some .svg, []⟩,
  ⟨"height", "height", some .svg, []⟩,
  ⟨"href", "href", some .svg, []⟩,
  ⟨"hrefLang", "hreflang", some .svg, []⟩,
  ⟨"horizAdvX", "horiz-adv-x", some .svg, [.number]⟩,
  ⟨"horizOriginX", "horiz-origin-x", some .svg, [.number]⟩,
  ⟨"horizOriginY", "horiz-origin-y", some .svg, [.number]⟩,
  ⟨"id", "id", some .svg, []⟩,
  ⟨"ideographic", "ideographic", some .svg, [.number]⟩,
  ⟨"imageRendering", "image-rendering", some .svg, []⟩,
  ⟨"initialVisibility", "initialVisibility", some .svg, []⟩,
  ⟨"in", "in", some .svg, []⟩,
  ⟨"in2", "in2", some .svg, []⟩,
  ⟨"intercept", "intercept", some .svg, [.number]⟩,
  ⟨"k", "k", some .svg, [.number]⟩,
  ⟨"k1", "k1", some .svg, [.number]⟩,
  ⟨"k2", "k2", some .svg, [.number]⟩,
  ⟨"k3", "k3", some .svg, [.number]⟩,
  ⟨"k4", "k4", some .svg, [.number]⟩,
  ⟨"kernelMatrix", "kernelMatrix", some .svg, [.commaOrSpaceSeparated]⟩,
  ⟨"kernelUnitLength", "kernelUnitLength", some .svg, []⟩,
  ⟨"keyPoints", "keyPoints", some .svg, []⟩,
  ⟨"keySplines", "keySplines", some .svg, []⟩,
  ⟨"keyTimes", "keyTimes", some .svg, []⟩,
  ⟨"kerning", "kerning", some .svg, []⟩,
  ⟨"lang", "lang", some .svg, []⟩,
  ⟨"lengthAdjust", "lengthAdjust", some .svg, []⟩,
  ⟨"letterSpacing", "letter-spacing", some .svg, []⟩,
  ⟨"lightingColor", "lighting-color", some .svg, []⟩,
  ⟨"limitingConeAngle", "limitingConeAngle", some .svg, [.number]⟩,
  ⟨"local", "local", some .svg, []⟩,
  ⟨"markerEnd", "marker-end", some .svg, []⟩,
  ⟨"markerMid", "marker-mid", some .svg, []⟩,
  ⟨"markerStart", "marker-start", some .svg, []⟩,
  ⟨"markerHeight", "markerHeight", some .svg, []⟩,
  ⟨"markerUnits", "markerUnits", some .svg, []⟩,
  ⟨"markerWidth", "markerWidth", some .svg, []⟩,
  ⟨"mask", "mask", some .svg, []⟩,
  ⟨"maskContentUnits", "maskContentUnits", some .svg, []⟩,
  ⟨"maskUnits", "maskUnits", some .svg, []⟩,
  ⟨"mathematical", "mathematical", some .svg, []⟩,
  ⟨"max", "max", some .svg, []⟩,
  ⟨"media", "media", some .svg, []⟩,
  ⟨"mediaCharacterEncoding", "mediaCharacterEncoding", some .svg, []⟩,
  ⟨"mediaContentEncodings", "mediaContentEncodings", some .svg, []⟩,
  ⟨"mediaSize", "mediaSize", some .svg, [.number]⟩,
  ⟨"mediaTime", "mediaTime", some .svg, []⟩,
  ⟨"method", "method", some .svg, []⟩,
  ⟨"min", "min", some .svg, []⟩,
  ⟨"mode", "mode", some .svg, []⟩,
  ⟨"name", "name", some .svg, []⟩,
  ⟨"navDown", "nav-down", some .svg, []⟩,
  ⟨"navDownLeft", "nav-down-left", some .svg, []⟩,
  ⟨"navDownRight", "nav-down-right", some .svg, []⟩,
  ⟨"navLeft", "nav-left", some .svg, []⟩,
  ⟨"navNext", "nav-next", some .svg, []⟩,
  ⟨"navPrev", "nav-prev", some .svg, []⟩,
  ⟨"navRight", "nav-right", some .svg, []⟩,
  ⟨"navUp", "nav-up", some .svg, []⟩,
  ⟨"navUpLeft", "nav-up-left", some .svg, []⟩,
  ⟨"navUpRight", "nav-up-right", some .svg, []⟩,
  ⟨"numOctaves", "numOctaves", some .svg, []⟩,
  ⟨"observer", "observer", some .svg, []⟩,
  ⟨"offset", "offset", some .svg, []⟩,
  ⟨"onAbort", "onabort", some .svg, []⟩,
  ⟨"onActivate", "onactivate", some .svg, []⟩,
  ⟨"onAfterPrint", "onafterprint", some .svg, []⟩,
  ⟨"onBeforePrint", "onbeforeprint", some .svg, []⟩,
  ⟨"onBegin", "onbegin", some .svg, []⟩,
  ⟨"onCancel", "oncancel", some .svg, []⟩,
  ⟨"onCanPlay", "oncanplay", some .svg, []⟩,
  ⟨"onCanPlayThrough", "oncanplaythrough", some .svg, []⟩,
  ⟨"onChange", "onchange", some .svg, []⟩,
  ⟨"onClick", "onclick", some .svg, []⟩,
  ⟨"onClose", "onclose", some .svg, []⟩,
  ⟨"onCopy", "oncopy", some .svg, []⟩,
  ⟨"onCueChange", "oncuechange", some .svg, []⟩,
  ⟨"onCut", "oncut", some .svg, []⟩,
  ⟨"onDblClick", "ondblclick", some .svg, []⟩,
  ⟨"onDrag", "ondrag", some .svg, []⟩,
  ⟨"onDragEnd", "ondragend", some .svg, []⟩,
  ⟨"onDragEnter", "ondragenter", some .svg, []⟩,
  ⟨"onDragExit", "ondragexit", some .svg, []⟩,
  ⟨"onDragLeave", "ondragleave", some .svg, []⟩,
  ⟨"onDragOver", "ondragover", some .svg, []⟩,
  ⟨"onDragStart", "ondragstart", some .svg, []⟩,
  ⟨"onDrop", "ondrop", some .svg, []⟩,
  ⟨"onDurationChange", "ondurationchange", some .svg, []⟩,
  ⟨"onEmptied", "onemptied", some .svg, []⟩,
  ⟨"onEnd", "onend", some .svg, []⟩,
  ⟨"onEnded", "onended", some .svg, []⟩,
  ⟨"onError", "onerror", some .svg, []⟩,
  ⟨"onFocus", "onfocus", some .svg, []⟩,
  ⟨"onFocusIn", "onfocusin", some .svg, []⟩,
  ⟨"onFocusOut", "onfocusout", some .svg, []⟩,
  ⟨"onHashChange", "onhashchange", some .svg, []⟩,
  ⟨"onInput", "oninput", some .svg, []⟩,
  ⟨"onInvalid", "oninvalid", some .svg, []⟩,
  ⟨"onKeyDown", "onkeydown", some .svg, []⟩,
  ⟨"onKeyPress", "onkeypress", some .svg, []⟩,
  ⟨"onKeyUp", "onkeyup", some .svg, []⟩,
  ⟨"onLoad", "onload", some .svg, []⟩,
  ⟨"onLoadedData", "onloadeddata", some .svg, []⟩,
  ⟨"onLoadedMetadata", "onloadedmetadata", some .svg, []⟩,
  ⟨"onLoadStart", "onloadstart", some .svg, []⟩,
  ⟨"onMessage", "onmessage", some .svg, []⟩,
  ⟨"onMouseDown", "onmousedown", some .svg, []⟩,
  ⟨"onMouseEnter", "onmouseenter", some .svg, []⟩,
  ⟨"onMouseLeave", "onmouseleave", some .svg, []⟩,
  ⟨"onMouseMove", "onmousemove", some .svg, []⟩,
  ⟨"onMouseOut", "onmouseout", some .svg, []⟩,
  ⟨"onMouseOver", "onmouseover", some .svg, []⟩,
  ⟨"onMouseUp", "onmouseup", some .svg, []⟩,
  ⟨"onMouseWheel", "onmousewheel", some .svg, []⟩,
  ⟨"onOffline", "onoffline", some .svg, []⟩,
  ⟨"onOnline", "ononline", some .svg, []⟩,
  ⟨"onPageHide", "onpagehide", some .svg, []⟩,
  ⟨"onPageShow", "onpageshow", some .svg, []⟩,
  ⟨"onPaste", "onpaste", some .svg, []⟩,
  ⟨"onPause", "onpause", some .svg, []⟩,
  ⟨"onPlay", "onplay", some .svg, []⟩,
  ⟨"onPlaying", "onplaying", some .svg, []⟩,
  ⟨"onPopState", "onpopstate", some .svg, []⟩,
  ⟨"onProgress", "onprogress", some .svg, []⟩,
  ⟨"onRateChange", "onratechange", some .svg, []⟩,
  ⟨"onRepeat", "onrepeat", some .svg, []⟩,
  ⟨"onReset", "onreset", some .svg, []⟩,
  ⟨"onResize", "onresize", some .svg, []⟩,
  ⟨"onScroll", "onscroll", some .svg, []⟩,
  ⟨"onSeeked", "onseeked", some .svg, []⟩,
  ⟨"onSeeking", "onseeking", some .svg, []⟩,
  ⟨"onSelect", "onselect", some .svg, []⟩,
  ⟨"onShow", "onshow", some .svg, []⟩,
  ⟨"onStalled", "onstalled", some .svg, []⟩,
  ⟨"onStorage", "onstorage", some .svg, []⟩,
  ⟨"onSubmit", "onsubmit", some .svg, []⟩,
  ⟨"onSuspend", "onsuspend", some .svg, []⟩,
  ⟨"onTimeUpdate", "ontimeupdate", some .svg, []⟩,
  ⟨"onToggle", "ontoggle", some .svg, []⟩,
  ⟨"onUnload", "onunload", some .svg, []⟩,
  ⟨"onVolumeChange", "onvolumechange", some .svg, []⟩,
  ⟨"onWaiting", "onwaiting", some .svg, []⟩,
  ⟨"onZoom", "onzoom", some .svg, []⟩,
  ⟨"opacity", "opacity", some .svg, []⟩,
  ⟨"operator", "operator", some .svg, []⟩,
  ⟨"order", "order", some .svg, []⟩,
  ⟨"orient", "orient", some .svg, []⟩,
  ⟨"orientation", "orientation", some .svg, []⟩,
  ⟨"origin", "origin", some .svg, []⟩,
  ⟨"overflow", "overflow", some .svg, []⟩,
  ⟨"overlay", "overlay", some .svg, []⟩,
  ⟨"overlinePosition", "overline-position", some .svg, [.number]⟩,
  ⟨"overlineThickness", "overline-thickness", some .svg, [.number]⟩,
  ⟨"paintOrder", "paint-order", some .svg, []⟩,
  ⟨"panose1", "panose-1", some .svg, []⟩,
  ⟨"path", "path", some .svg, []⟩,
  ⟨"pathLength", "pathLength", some .svg, [.number]⟩,
  ⟨"patternContentUnits", "patternContentUnits", some .svg, []⟩,
  ⟨"patternTransform", "patternTransform", some .svg, []⟩,
  ⟨"patternUnits", "patternUnits", some .svg, []⟩,
  ⟨"phase", "phase", some .svg, []⟩,
  ⟨"ping", "ping", some .svg, [.spaceSeparated]⟩,
  ⟨"pitch", "pitch", some .svg, []⟩,
  ⟨"playbackOrder", "playbackorder", some .svg, []⟩,
  ⟨"pointerEvents", "pointer-events", some .svg, []⟩,
  ⟨"points", "points", some .svg, []⟩,
  ⟨"pointsAtX", "pointsAtX", some .svg, [.number]⟩,
  ⟨"pointsAtY", "pointsAtY", some .svg, [.number]⟩,
  ⟨"pointsAtZ", "pointsAtZ", some .svg, [.number]⟩,
  ⟨"preserveAlpha", "preserveAlpha", some .svg, []⟩,
  ⟨"preserveAspectRatio", "preserveAspectRatio", some .svg, []⟩,
  ⟨"primitiveUnits", "primitiveUnits", some .svg, []⟩,
  ⟨"propagate", "propagate", some .svg, []⟩,
  ⟨"property", "property", some .svg, [.commaOrSpaceSeparated]⟩,
  ⟨"r", "r", some .svg, []⟩,
  ⟨"radius", "radius", some .svg, []⟩,
  ⟨"referrerPolicy", "referrerpolicy", some .svg, []⟩,
  ⟨"refX", "refX", some .svg, []⟩,
  ⟨"refY", "refY", some .svg, []⟩,
  ⟨"rel", "rel", some .svg, [.commaOrSpaceSeparated]⟩,
  ⟨"rev", "rev", some .svg, [.commaOrSpaceSeparated]⟩,
  ⟨"renderingIntent", "rendering-intent", some .svg, []⟩,
  ⟨"repeatCount", "repeatCount", some .svg, []⟩,
  ⟨"repeatDur", "repeatDur", some .svg, []⟩,
  ⟨"requiredExtensions", "requiredExtensions", some .svg, [.commaOrSpaceSeparated]⟩,
  ⟨"requiredFeatures", "requiredFeatures", some .svg, [.commaOrSpaceSeparated]⟩,
  ⟨"requiredFonts", "requiredFonts", some .svg, [.commaOrSpaceSeparated]⟩,
  ⟨"requiredFormats", "requiredFormats", some .svg, [.commaOrSpaceSeparated]⟩,
  ⟨"resource", "resource", some .svg, []⟩,
  ⟨"restart", "restart", some .svg, []⟩,
  ⟨"result", "result", some .svg, []⟩,
  ⟨"rotate", "rotate", some .svg, []⟩,
  ⟨"rx", "rx", some .svg, []⟩,
  ⟨"ry", "ry", some .svg, []⟩,
  ⟨"scale", "scale", some .svg, []⟩,
  ⟨"seed", "seed", some .svg, []⟩,
  ⟨"shapeRendering", "shape-rendering", some .svg, []⟩,
  ⟨"side", "side", some .svg, []⟩,
  ⟨"slope", "slope", some .svg, []⟩,
  ⟨"snapshotTime", "snapshotTime", some .svg, []⟩,
  ⟨"specularConstant", "specularConstant", some .svg, [.number]⟩,
  ⟨"specularExponent", "specularExponent", some .svg, [.number]⟩,
  ⟨"spreadMethod", "spreadMethod", some .svg, []⟩,
  ⟨"spacing", "spacing", some .svg, []⟩,
  ⟨"startOffset", "startOffset", some .svg, []⟩,
  ⟨"stdDeviation", "stdDeviation", some .svg, []⟩,
  ⟨"stemh", "stemh", some .svg, []⟩,
  ⟨"stemv", "stemv", some .svg, []⟩,
  ⟨"stitchTiles", "stitchTiles", some .svg, []⟩,
  ⟨"stopColor", "stop-color", some .svg, []⟩,
  ⟨"stopOpacity", "stop-opacity", some .svg, []⟩,
  ⟨"strikethroughPosition", "strikethrough-position", some .svg, [.number]⟩,
  ⟨"strikethroughThickness", "strikethrough-thickness", some .svg, [.number]⟩,
  ⟨"string", "string", some .svg, []⟩,
  ⟨"stroke", "stroke", some .svg, []⟩,
  ⟨"strokeDashArray", "stroke-dasharray", some .svg, [.commaOrSpaceSeparated]⟩,
  ⟨"strokeDashOffset", "stroke-dashoffset", some .svg, []⟩,
  ⟨"strokeLineCap", "stroke-linecap", some .svg, []⟩,
  ⟨"strokeLineJoin", "stroke-linejoin", some .svg, []⟩,
  ⟨"strokeMiterLimit", "stroke-miterlimit", some .svg, [.number]⟩,
  ⟨"strokeOpacity", "stroke-opacity", some .svg, [.number]⟩,
  ⟨"strokeWidth", "stroke-width", some .svg, []⟩,
  ⟨"style", "style", some .svg, []⟩,
  ⟨"surfaceScale", "surfaceScale", some .svg, [.number]⟩,
  ⟨"syncBehavior", "syncBehavior", some .svg, []⟩,
  ⟨"syncBehaviorDefault", "syncBehaviorDefault", some .svg, []⟩,
  ⟨"syncMaster", "syncMaster", some .svg, []⟩,
  ⟨"syncTolerance", "syncTolerance", some .svg, []⟩,
  ⟨"syncToleranceDefault", "syncToleranceDefault", some .svg, []⟩,
  ⟨"systemLanguage", "systemLanguage", some .svg, [.commaOrSpaceSeparated]⟩,
  ⟨"tabIndex", "tabindex", some .svg, [.number]⟩,
  ⟨"tableValues", "tableValues", some .svg, []⟩,
  ⟨"target", "target", some .svg, []⟩,
  ⟨"targetX", "targetX", some .svg, [.number]⟩,
  ⟨"targetY", "targetY", some .svg, [.number]⟩,
  ⟨"textAnchor", "text-anchor", some .svg, []⟩,
  ⟨"textDecoration", "text-decoration", some .svg, []⟩,
  ⟨"textRendering", "text-rendering", some .svg, []⟩,
  ⟨"textLength", "textLength", some .svg, []⟩,
  ⟨"timelineBegin", "timelinebegin", some .svg, []⟩,
  ⟨"title", "title", some .svg, []⟩,
  ⟨"transformBehavior", "transformBehavior", some .svg, []⟩,
  ⟨"type", "type", some .svg, []⟩,
  ⟨"typeOf", "typeof", some .svg, [.commaOrSpaceSeparated]⟩,
  ⟨"to", "to", some .svg, []⟩,
  ⟨"transform", "transform", some .svg, []⟩,
  ⟨"transformOrigin", "transform-origin", some .svg, []⟩,
  ⟨"u1", "u1", some .svg, []⟩,
  ⟨"u2", "u2", some .svg, []⟩,
  ⟨"underlinePosition", "underline-position", some .svg, [.number]⟩,
  ⟨"underlineThickness", "underline-thickness", some .svg, [.number]⟩,
  ⟨"unicode", "unicode", some .svg, []⟩,
  ⟨"unicodeBidi", "unicode-bidi", some .svg, []⟩,
  ⟨"unicodeRange", "unicode-range", some .svg, []⟩,
  ⟨"unitsPerEm", "units-per-em", some .svg, [.number]⟩,
  ⟨"values", "values", some .svg, []⟩,
  ⟨"vAlphabetic", "v-alphabetic", some .svg, [.number]⟩,
  ⟨"vMathematical", "v-mathematical", some .svg, [.number]⟩,
  ⟨"vectorEffect", "vector-effect", some .svg, []⟩,
  ⟨"vHanging", "v-hanging", some .svg, [.number]⟩,
  ⟨"vIdeographic", "v-ideographic", some .svg, [.number]⟩,
  ⟨"version", "version", some .svg, []⟩,
  ⟨"vertAdvY", "vert-adv-y", some .svg, [.number]⟩,
  ⟨"vertOriginX", "vert-origin-x", some .svg, [.number]⟩,
  ⟨"vertOriginY", "vert-origin-y", some .svg, [.number]⟩,
  ⟨"viewBox", "viewBox", some .svg, []⟩,
  ⟨"viewTarget", "viewTarget", some .svg, []⟩,
  ⟨"visibility", "visibility", some .svg, []⟩,
  ⟨"width", "width", some .svg, []⟩,
  ⟨"widths", "widths", some .svg, []⟩,
  ⟨"wordSpacing", "word-spacing", some .svg, []⟩,
  ⟨"writingMode", "writing-mode", some .svg, []⟩,
  ⟨"x", "x", some .svg, []⟩,
  ⟨"x1", "x1", some .svg, []⟩,
  ⟨"x2", "x2", some .svg, []⟩,
  ⟨"xChannelSelector", "xChannelSelector", some .svg, []⟩,
  ⟨"xHeight", "x-height", some .svg, [.number]⟩,
  ⟨"y", "y", some .svg, []⟩,
  ⟨"y1", "y1", some .svg, []⟩,
  ⟨"y2", "y2", some .svg, []⟩,
  ⟨"yChannelSelector", "yChannelSelector", some .svg, []⟩,
  ⟨"z", "z", some .svg, []⟩,
  ⟨"zoomAndPan", "zoomAndPan", some .svg, []⟩]

end Vocabulary
end MarkupJsx
