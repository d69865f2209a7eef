/-!
# The harness of a preview

The part of a preview's script that is the same for every build: it reports to the host, shows
errors in the place of the page, and mounts a component.
-/

namespace LivePreview.Sandbox

/-- Reporting to the host, showing errors, and mounting. It is shared by the frame and the detached
window, so it looks for its container whenever it needs it. -/
def harness : String :=
  "\n".intercalate [
    "  function __report__(type, payload) \x7b",
    "    try \x7b",
    "      var target = window.parent && window.parent !== window ? window.parent : window.opener;",
    "      if (!target) return;",
    "      var message = \x7b type: type, build: __build__ \x7d;",
    "      for (var key in payload) message[key] = payload[key];",
    "      target.postMessage(message, '*');",
    "    \x7d catch (e) \x7b\x7d",
    "  \x7d",
    "",
    "  function __container__() \x7b",
    "    var el = document.getElementById('root');",
    "    if (!el) \x7b",
    "      el = document.createElement('div');",
    "      el.id = 'root';",
    "      document.body.appendChild(el);",
    "    \x7d",
    "    return el;",
    "  \x7d",
    "",
    "  function __showError__(err) \x7b",
    "    console.error('Runtime error:', err);",
    "    var message = err && err.message ? err.message : String(err);",
    "    var stack = err && err.stack ? err.stack : '';",
    "    var errorDiv = document.createElement('div');",
    "    errorDiv.setAttribute('data-rerender-error', '');",
    "    errorDiv.style.cssText ="
      ++ " 'color:red;padding:20px;font-family:monospace;white-space:pre-wrap;background"
      ++ ":#fee;border:1px solid #fcc;border-radius:4px;margin:10px;';",
    "    errorDiv.textContent = 'Runtime Error:\\n' + message + '\\n\\n' + stack;",
    "    if (window.__rerenderRoot__) \x7b",
    "      try \x7b window.__rerenderRoot__.unmount(); \x7d catch (e) \x7b\x7d",
    "      window.__rerenderRoot__ = null;",
    "    \x7d",
    "    document.body.innerHTML = '';",
    "    document.body.appendChild(errorDiv);",
    "    __report__('PREVIEW_RUNTIME_ERROR', \x7b message: message, stack: stack \x7d);",
    "  \x7d",
    "",
    "  if (!window.__rerenderHarness__) \x7b",
    "    window.__rerenderHarness__ = true;",
    "    window.addEventListener('error', function (event) \x7b",
    "      window.__rerenderShowError__(event.error || new Error(event.message));",
    "    \x7d);",
    "    window.addEventListener('unhandledrejection', function (event) \x7b",
    "      var reason = event.reason;",
    "      window.__rerenderShowError__(reason instanceof Error ? reason : new"
      ++ " Error(String(reason)));",
    "    \x7d);",
    "  \x7d",
    "  window.__rerenderShowError__ = __showError__;",
    "",
    "  function __mount__(Component) \x7b",
    "    if (window.__rerenderRoot__) \x7b",
    "      try \x7b window.__rerenderRoot__.unmount(); \x7d catch (e) \x7b\x7d",
    "    \x7d",
    "    var container = __container__();",
    "    var element = React.createElement(Component);",
    "    if (ReactDOM.createRoot) \x7b",
    "      var root = ReactDOM.createRoot(container);",
    "      window.__rerenderRoot__ = root;",
    "      if (ReactDOM.flushSync) \x7b",
    "        ReactDOM.flushSync(function () \x7b root.render(element); \x7d);",
    "      \x7d else \x7b",
    "        root.render(element);",
    "      \x7d",
    "    \x7d else \x7b",
    "      ReactDOM.render(element, container);",
    "      window.__rerenderRoot__ = \x7b unmount: function () \x7b"
      ++ " ReactDOM.unmountComponentAtNode(container); \x7d \x7d;",
    "    \x7d",
    "  \x7d"]

end LivePreview.Sandbox
