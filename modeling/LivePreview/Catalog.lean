import LivePreview.Dependency
import LivePreview.Specifier

/-!
# The catalog of dependencies

The packages that a preview can load by script. A package that was asked for is loaded once; who
imports it, or a path inside it, reads its global.
-/

namespace LivePreview

/-- The packages that can be loaded, by name. -/
structure Catalog where
  table : Table Dependency
  deriving DecidableEq, Repr, Inhabited

namespace Catalog

/-- A package on the public network. -/
def hosted (name path : String) (global? : Option String) : Dependency :=
  ⟨name, "https://cdn.jsdelivr.net/npm/" ++ path, global?⟩

/-- The packages that are known without any configuration. -/
def wellKnown : List Dependency :=
  [hosted "lodash" "lodash@4.17.21/lodash.min.js" (some "_"),
   hosted "axios" "axios@1.6.0/dist/axios.min.js" (some "axios"),
   hosted "moment" "moment@2.29.4/moment.min.js" (some "moment"),
   hosted "dayjs" "dayjs@1.11.10/dayjs.min.js" (some "dayjs"),
   hosted "date-fns" "date-fns@2.30.0/index.min.js" none,
   hosted "uuid" "uuid@9.0.0/dist/umd/uuidv4.min.js" (some "uuid"),
   hosted "nanoid" "nanoid@5.0.3/nanoid.js" (some "nanoid"),
   hosted "clsx" "clsx@2.0.0/dist/clsx.min.js" (some "clsx"),
   hosted "classnames" "classnames@2.3.2/index.js" (some "classnames"),
   hosted "immer" "immer@10.0.3/dist/immer.umd.production.min.js" none,
   hosted "redux" "redux@4.2.1/dist/redux.min.js" (some "Redux"),
   hosted "react-redux" "react-redux@8.1.3/dist/react-redux.min.js" (some "ReactRedux"),
   hosted "@reduxjs/toolkit" "@reduxjs/toolkit@1.9.7/dist/redux-toolkit.umd.min.js" none,
   hosted "zustand" "zustand@4.4.0/umd/index.production.js" (some "create"),
   hosted "formik" "formik@2.4.5/dist/formik.umd.production.min.js" (some "Formik"),
   hosted "yup" "yup@1.3.2/yup.min.js" (some "yup"),
   hosted "zod" "zod@3.22.4/lib/index.umd.js" (some "z"),
   hosted "styled-components" "styled-components@6.1.1/dist/styled-components.min.js"
     (some "styled"),
   hosted "@emotion/react" "@emotion/react@11.11.1/dist/emotion-react.umd.min.js"
     (some "emotionReact"),
   hosted "@emotion/styled" "@emotion/styled@11.11.0/dist/emotion-styled.umd.min.js"
     (some "emotionStyled"),
   hosted "@mui/system" "@mui/system@5.15.0/umd/mui-system.production.min.js" (some "MuiSystem"),
   hosted "@mui/material" "@mui/material@5.15.0/umd/material-ui.production.min.js"
     (some "MaterialUI"),
   hosted "react-router-dom" "react-router-dom@6.20.0/dist/umd/react-router-dom.production.min.js"
     (some "ReactRouterDOM"),
   hosted "framer-motion" "framer-motion@10.16.5/dist/framer-motion.js" (some "FramerMotion"),
   hosted "gsap" "gsap@3.12.2/dist/gsap.min.js" (some "gsap"),
   hosted "chart.js" "chart.js@4.4.1/dist/chart.umd.min.js" (some "Chart"),
   hosted "recharts" "recharts@2.10.1/umd/Recharts.min.js" (some "Recharts"),
   hosted "react-icons" "react-icons@4.12.0/lib/index.js" (some "reactIcons"),
   hosted "@fortawesome/fontawesome-free" "@fortawesome/fontawesome-free@6.4.0/js/all.min.js" none]

def empty : Catalog := ⟨.empty⟩

/-- Adds packages; one that is there already is replaced. -/
def extend (c : Catalog) (ds : List Dependency) : Catalog :=
  ⟨ds.foldl (fun t d => t.insert d.name d) c.table⟩

def builtin : Catalog := empty.extend wellKnown

def size (c : Catalog) : Nat := c.table.size

def isEmpty (c : Catalog) : Bool := c.table.isEmpty

def get? (c : Catalog) (name : String) : Option Dependency := c.table.get? name

def contains (c : Catalog) (name : String) : Bool := c.table.contains name

/-- The scripts of the packages asked for, in the order of the first time each is named. Packages
that the catalog does not hold have none. -/
def scriptUrls (c : Catalog) (requested : List String) : List String :=
  (Path.unique requested).filterMap fun name => (c.get? name).map (·.url)

/-- What is asked for but not in the catalog. -/
def unknown (c : Catalog) (requested : List String) : List String :=
  requested.filter fun name => !c.contains name

/-- The global that a specifier reads: that of the package it names, else that of the package it
belongs to. -/
def global? (c : Catalog) (specifier : String) : Option String :=
  match c.get? specifier with
  | some d => d.global?
  | none => (c.get? (Specifier.basePackage specifier)).bind (·.global?)

/-- The specifier names a package of the catalog, or something inside one. -/
def serves (c : Catalog) (specifier : String) : Bool :=
  c.contains specifier || c.contains (Specifier.basePackage specifier)

/-- The globals of all packages that have one, by the name of the package. -/
def globals (c : Catalog) : Table String := c.table.filterMap fun _ d => d.global?

end Catalog

end LivePreview
