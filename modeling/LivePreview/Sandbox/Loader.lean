import LivePreview.Globals
import LivePreview.Registry

/-!
# The loader of a preview

The script that answers `require`. It gets tables that say what each specifier names, and functions
that run the modules; a module runs at most once.
-/

namespace LivePreview

/-- What a loader knows. -/
structure LoaderTables where
  /-- The globals of the packages that are loaded before all else. -/
  builtins : List (String × String)
  /-- The globals of the other packages. -/
  globals : Table String
  /-- The paths of modules, by every spelling. -/
  aliases : Table String
  /-- The paths of stylesheets, by every spelling. -/
  stylesheetAliases : Table String
  /-- The texts of stylesheets, by path. -/
  stylesheets : Table String
  /-- What may be left out at the end of a specifier. -/
  suffixes : List String
  /-- What may be left out at the end of a specifier that got a `./`. -/
  prefixedSuffixes : List String
  deriving DecidableEq, Repr, Inhabited

namespace LoaderTables

def ofRegistry (r : Registry) (globals : Table String) : LoaderTables where
  builtins := Globals.builtins
  globals := globals
  aliases := r.moduleAliases
  stylesheetAliases := r.stylesheetAliases
  stylesheets := r.stylesheets.map (·.text)
  suffixes := Specifier.suffixes
  prefixedSuffixes := Specifier.prefixedSuffixes

/-- Texts under names. -/
def members (es : List (String × String)) : Json := .table (es.map fun (k, v) => (k, .string v))

def toJson (t : LoaderTables) : Json :=
  .table [("aliases", members t.aliases.entries), ("builtins", members t.builtins),
    ("globals", members t.globals.entries), ("prefixedSuffixes", .strings t.prefixedSuffixes),
    ("stylesheetAliases", members t.stylesheetAliases.entries),
    ("stylesheets", members t.stylesheets.entries), ("suffixes", .strings t.suffixes)]

end LoaderTables

namespace Sandbox

/-- The function that makes a loader from its tables. -/
def loader : String :=
  "\n".intercalate [
    "  function createLoader(tables) \x7b",
    "    var factories = \x7b\x7d;",
    "    var cache = \x7b\x7d;",
    "    var sheets = \x7b\x7d;",
    "",
    "    function has(table, key) \x7b",
    "      return Object.prototype.hasOwnProperty.call(table, key);",
    "    \x7d",
    "",
    "    function stripDotSlash(path) \x7b",
    "      return path.indexOf('./') === 0 ? path.slice(2) : path;",
    "    \x7d",
    "",
    "    function dirname(path) \x7b",
    "      path = stripDotSlash(path);",
    "      var idx = path.lastIndexOf('/');",
    "      return idx < 0 ? '' : path.slice(0, idx);",
    "    \x7d",
    "",
    "    function joinRelative(dir, id) \x7b",
    "      var segments = dir.split('/').filter(Boolean);",
    "      var parts = id.split('/');",
    "      for (var i = 0; i < parts.length; i++) \x7b",
    "        var part = parts[i];",
    "        if (part === '' || part === '.') continue;",
    "        if (part === '..') \x7b",
    "          if (!segments.length) return null;",
    "          segments.pop();",
    "          continue;",
    "        \x7d",
    "        segments.push(part);",
    "      \x7d",
    "      return segments.join('/');",
    "    \x7d",
    "",
    "    function expand(id, out) \x7b",
    "      var push = function (value) \x7b if (out.indexOf(value) < 0) out.push(value); \x7d;",
    "      push(id);",
    "      var bare = stripDotSlash(id);",
    "      tables.suffixes.forEach(function (suffix) \x7b push(bare + suffix); \x7d);",
    "      tables.prefixedSuffixes.forEach(function (suffix) \x7b push('./' + bare +"
      ++ " suffix); \x7d);",
    "    \x7d",
    "",
    "    function candidates(id, importer) \x7b",
    "      var out = [];",
    "      if (importer && (id.indexOf('./') === 0 || id.indexOf('../') === 0)) \x7b",
    "        var dir = dirname(importer);",
    "        if (dir) \x7b",
    "          var joined = joinRelative(dir, id);",
    "          if (joined !== null) expand(joined, out);",
    "        \x7d",
    "      \x7d",
    "      expand(id, out);",
    "      return out;",
    "    \x7d",
    "",
    "    function basePackage(id) \x7b",
    "      var parts = id.split('/');",
    "      return id.charAt(0) === '@' ? parts.slice(0, 2).join('/') : parts[0];",
    "    \x7d",
    "",
    "    function execute(path) \x7b",
    "      if (has(cache, path)) return cache[path].exports;",
    "      var module = \x7b exports: \x7b\x7d \x7d;",
    "      cache[path] = module;",
    "      var scopedRequire = function (id) \x7b return load(id, path); \x7d;",
    "      factories[path].call(module.exports, module, module.exports, scopedRequire);",
    "      return module.exports;",
    "    \x7d",
    "",
    "    function load(id, importer) \x7b",
    "      if (has(tables.builtins, id)) return window[tables.builtins[id]];",
    "",
    "      if (has(tables.globals, id)) \x7b",
    "        var globalName = tables.globals[id];",
    "        if (typeof window[globalName] !== 'undefined') return window[globalName];",
    "        console.warn('[CDN package loading] ' + id + ' (expected global: ' +"
      ++ " globalName + ')');",
    "      \x7d",
    "",
    "      var tries = candidates(id, importer);",
    "",
    "      for (var i = 0; i < tries.length; i++) \x7b",
    "        if (has(tables.stylesheetAliases, tries[i])) \x7b",
    "          var sheet = tables.stylesheetAliases[tries[i]];",
    "          if (!has(sheets, sheet)) \x7b",
    "            var style = document.createElement('style');",
    "            style.setAttribute('data-module', sheet);",
    "            style.textContent = tables.stylesheets[sheet];",
    "            document.head.appendChild(style);",
    "            sheets[sheet] = \x7b\x7d;",
    "          \x7d",
    "          return sheets[sheet];",
    "        \x7d",
    "      \x7d",
    "",
    "      var base = basePackage(id);",
    "      if (base !== id && has(tables.globals, base)) \x7b",
    "        var baseGlobal = window[tables.globals[base]];",
    "        if (typeof baseGlobal !== 'undefined') return baseGlobal;",
    "      \x7d",
    "",
    "      for (var j = 0; j < tries.length; j++) \x7b",
    "        if (has(tables.aliases, tries[j])) \x7b",
    "          var canonical = tables.aliases[tries[j]];",
    "          if (has(factories, canonical)) return execute(canonical);",
    "        \x7d",
    "      \x7d",
    "",
    "      console.warn('[Module not found]', id);",
    "      return \x7b\x7d;",
    "    \x7d",
    "",
    "    return \x7b",
    "      define: function (path, factory) \x7b factories[path] = factory; \x7d,",
    "      load: load,",
    "    \x7d;",
    "  \x7d"]

end Sandbox

end LivePreview
