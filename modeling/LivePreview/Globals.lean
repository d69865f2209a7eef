/-!
# Preloaded globals

React is loaded before anything else, so its packages are read from globals and never loaded by
specifier. Some of its exports are bound as plain names everywhere.
-/

namespace LivePreview.Globals

/-- The packages served by a preloaded global, with the global of each. -/
def builtins : List (String × String) :=
  [("react", "React"), ("react-dom", "ReactDOM"), ("react-dom/client", "ReactDOM"),
   ("react/jsx-runtime", "React")]

/-- The global that a specifier reads, if it is served by one. -/
def builtin? (specifier : String) : Option String := builtins.lookup specifier

def isBuiltin (specifier : String) : Bool := (builtin? specifier).isSome

/-- The exports of React that are bound as plain names. -/
def hooks : List String :=
  ["useState", "useEffect", "useRef", "useMemo", "useCallback", "useReducer", "useContext",
   "useLayoutEffect", "useImperativeHandle", "useTransition", "useDeferredValue",
   "useSyncExternalStore", "useId", "useInsertionEffect", "createContext", "createRef",
   "forwardRef", "memo", "lazy", "Fragment", "Component", "PureComponent", "Suspense",
   "StrictMode"]

end LivePreview.Globals
