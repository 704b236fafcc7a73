import PageScripts.Fault

/-!
# Requests

A request is described by who makes it and by what page it is for: the flags of its route,
the content it shows with the terms assigned to it, the term archive, the page template and
the shop endpoint.  `Request.ofJson` reads the description; an unknown flag is refused, so
that a misspelled one does not silently make another request of it.
-/

namespace PageScripts

/-- What kind of page a route leads to. -/
inductive RouteFlag
  | home
  | frontPage
  | commentsOpen
  | search
  | notFound
  | privacyPolicy
  | paged
  | archive
  | woocommerce
  | shop
  | productCategory
  | productTag
  | product
  | cart
  | checkout
  | accountPage
  deriving DecidableEq, Repr

namespace RouteFlag

/-- The flags. -/
def all : List RouteFlag :=
  [ home, frontPage, commentsOpen, search, notFound, privacyPolicy, paged, archive,
    woocommerce, shop, productCategory, productTag, product, cart, checkout, accountPage ]

/-- The word for a flag. -/
def word : RouteFlag → String
  | home => "home"
  | frontPage => "front_page"
  | commentsOpen => "comments_open"
  | search => "search"
  | notFound => "404"
  | privacyPolicy => "privacy_policy"
  | paged => "paged"
  | archive => "archive"
  | woocommerce => "woocommerce"
  | shop => "shop"
  | productCategory => "product_category"
  | productTag => "product_tag"
  | product => "product"
  | cart => "cart"
  | checkout => "checkout"
  | accountPage => "account_page"

/-- The flag of a word. -/
def ofWord? (word : String) : Option RouteFlag :=
  all.find? fun flag => flag.word == word

end RouteFlag

/-- Texts in the order of their code points. -/
def sortTexts (texts : List String) : List String :=
  texts.mergeSort fun a b => decide (a ≤ b)

/-- Who asks for which page. -/
structure Request where
  isAdmin : Bool := false
  isAjax : Bool := false
  loggedIn : Bool := false
  canManage : Bool := false
  isMobile : Bool := false
  flags : List RouteFlag := []
  postType : Json := .null
  postId : Option Int := none
  terms : Listing String (List String) := []
  archiveTaxonomy : Json := .null
  archiveTerm : Json := .null
  archiveTermId : Option Int := none
  pageTemplate : Json := .null
  endpoint : Json := .null
  url : String := ""
  deriving DecidableEq

namespace Request

/-- Whether the request is not one of the administration. -/
def isFrontend (request : Request) : Bool :=
  !request.isAdmin

/-- Whether the route has a flag. -/
def has
    (flag : RouteFlag)
    (request : Request) :
    Bool :=
  request.flags.contains flag

/-- Reads the flags of a route; all unknown ones are named in the refusal. -/
def readFlags (value : Json) : Except Fault (List RouteFlag) := do
  let words := ((← value.elements).map Json.display).eraseDups
  let unknown := words.filter fun word => (RouteFlag.ofWord? word).isNone
  if unknown.isEmpty then
    return words.filterMap RouteFlag.ofWord?
  else
    throw (.unknownFlags (sortTexts unknown))

/-- Reads the terms of one taxonomy: one term as it is, or several. -/
def readTaxonomy (value : Json) : Except Fault (List String) :=
  match value with
  | .str s => .ok [s]
  | .bool b => .ok [Json.boolLiteral b]
  | .int n => .ok [toString n]
  | other => do
      return ((← other.elements).map Json.display).eraseDups

/-- Reads the terms of all taxonomies. -/
def readTerms (value : Json) : Except Fault (Listing String (List String)) :=
  if !value.truth then
    .ok []
  else
    match value with
    | .obj fields =>
        fields.mapM fun entry => do
          return (entry.1, ← readTaxonomy entry.2)
    | other => .error (.noMembers other.kind)

/-- Reads a number that may be missing. -/
def readId : Json → Except Fault (Option Int)
  | .null => .ok none
  | value => return some (← value.toInt)

/-- Reads the description of a request from the members of an object. -/
def ofFields (fields : Fields) : Except Fault Request := do
  let get (name : String) : Json := (Listing.value? name fields).getD .null
  let flags ← readFlags ((Listing.value? "flags" fields).getD (.arr []))
  let terms ← readTerms (get "terms")
  let postId ← readId (get "post_id")
  let archiveTermId ← readId (get "archive_term_id")
  let endpoint := get "wc_endpoint"
  return {
    isAdmin := (get "is_admin").truth
    isAjax := (get "is_ajax").truth
    loggedIn := (get "logged_in").truth
    canManage := (get "can_manage").truth
    isMobile := (get "is_mobile").truth
    flags
    postType := get "post_type"
    postId
    terms
    archiveTaxonomy := get "archive_taxonomy"
    archiveTerm := get "archive_term"
    archiveTermId
    pageTemplate := get "page_template"
    endpoint := if endpoint.truth then endpoint else .null
    url := ((Listing.value? "url" fields).getD (.str "")).display
  }

/-- Reads the description of a request. -/
def ofJson : Json → Except Fault Request
  | .obj fields => ofFields fields
  | other => .error (.noMembers other.kind)

end Request
end PageScripts
