import LivePreview.Config
import LivePreview.Text.Escape

/-!
# The detached window

A window of its own that shows a preview. It loads React, asks the host for code again and again,
and runs what it gets when that has changed.
-/

namespace LivePreview.Window

/-- The script that asks for code and runs it. -/
def script (c : Config) : String :=
  "\n".intercalate [
    "(function () \x7b",
    "  var POLL_INTERVAL_MS = " ++ toString c.pollIntervalMs.toNat ++ ";",
    "  var lastCode = '';",
    "  var lastCss = '';",
    "  var loadedScripts = \x7b\x7d;",
    "",
    "  function requestCode() \x7b",
    "    if (window.opener && !window.opener.closed) \x7b",
    "      window.opener.postMessage(\x7b type: 'PREVIEW_REQUEST_CODE' \x7d, '*');",
    "    \x7d",
    "  \x7d",
    "",
    "  function loadScripts(urls, done) \x7b",
    "    var pending = 0;",
    "    urls.forEach(function (url) \x7b",
    "      if (loadedScripts[url]) return;",
    "      loadedScripts[url] = true;",
    "      pending++;",
    "      var tag = document.createElement('script');",
    "      tag.src = url;",
    "      tag.onload = tag.onerror = function () \x7b",
    "        pending--;",
    "        if (pending === 0) done();",
    "      \x7d;",
    "      document.body.appendChild(tag);",
    "    \x7d);",
    "    if (pending === 0) done();",
    "  \x7d",
    "",
    "  function renderPreview(js, css, scripts) \x7b",
    "    document.getElementById('dynamic-styles').textContent = css || '';",
    "    loadScripts(scripts || [], function () \x7b",
    "      var tag = document.createElement('script');",
    "      tag.textContent = js;",
    "      document.body.appendChild(tag);",
    "      tag.parentNode.removeChild(tag);",
    "    \x7d);",
    "  \x7d",
    "",
    "  window.addEventListener('message', function (event) \x7b",
    "    var data = event.data;",
    "    if (!data || data.type !== 'PREVIEW_CODE_UPDATE' || !data.js) return;",
    "    if (data.js !== lastCode || data.css !== lastCss) \x7b",
    "      lastCode = data.js;",
    "      lastCss = data.css;",
    "      renderPreview(data.js, data.css, data.scripts);",
    "    \x7d",
    "  \x7d);",
    "",
    "  requestCode();",
    "  var updateInterval = setInterval(requestCode, POLL_INTERVAL_MS);",
    "  window.addEventListener('beforeunload', function () \x7b",
    "    clearInterval(updateInterval);",
    "  \x7d);",
    "\x7d)();"]

/-- The document of the window. -/
def document (c : Config) : String :=
  "\n".intercalate [
    "<!DOCTYPE html>",
    "<html>",
    "  <head>",
    "    <meta charset=\"UTF-8\">",
    "    <meta name=\"viewport\" content=\"width=device-width, initial-scale=1.0\">",
    "    <title>Rerender Preview</title>",
    "    <style>",
    "      * \x7b margin: 0; padding: 0; box-sizing: border-box; \x7d",
    "      body \x7b font-family: -apple-system, BlinkMacSystemFont, 'Segoe UI',"
      ++ " Roboto, sans-serif; padding: 20px; \x7d",
    "      #root \x7b width: 100%; \x7d",
    "    </style>",
    "    <style id=\"dynamic-styles\"></style>",
    "  </head>",
    "  <body>",
    "    <div id=\"root\"></div>",
    "    <script crossorigin src=\"" ++ c.reactUrl ++ "\"></script>",
    "    <script crossorigin src=\"" ++ c.reactDomUrl ++ "\"></script>",
    "    <script>",
    Text.escapeScript (script c),
    "    </script>",
    "  </body>",
    "</html>",
    ""]

end LivePreview.Window
