import PageScripts.Registry
import PageScripts.Request

/-!
# The vocabulary of page rules

The predicates that rules are built from: who makes the request, what kind of page it is for,
and five that take arguments.  An argument that is missing, null or the empty text asks less:
any content, any term.  Arguments are compared as texts, so that the number 7 and the text
`"7"` mean the same.
-/

namespace PageScripts
namespace Vocabulary

/-- The name of the predicate that newly removed scripts get as their rule. -/
def frontendName : String := "is_frontend"

/-- An argument by its place; a missing one is the empty text. -/
def argument
    (arguments : List Json)
    (index : Nat) :
    Json :=
  arguments[index]?.getD (.str "")

/-- Whether a value of the request is the given one, or any if none is given. -/
def matchesValue
    (actual wanted : Json) :
    Bool :=
  if actual = .null then
    false
  else if wanted.isUnset then
    true
  else
    actual = .str wanted.display

/-- Whether the request shows a single content, of a given type. -/
def isSingular
    (request : Request)
    (arguments : List Json) :
    Bool :=
  matchesValue request.postType (argument arguments 0)

/-- Whether the page uses a template, or a given one. -/
def isPageTemplate
    (request : Request)
    (arguments : List Json) :
    Bool :=
  matchesValue request.pageTemplate (argument arguments 0)

/-- Whether the page is a shop endpoint, or a given one. -/
def isEndpoint
    (request : Request)
    (arguments : List Json) :
    Bool :=
  matchesValue request.endpoint (argument arguments 0)

/-- Whether the archive's term is the given one, by slug or by number. -/
def isArchiveTerm
    (request : Request)
    (term : Json) :
    Bool :=
  let wanted := term.display
  request.archiveTerm = .str wanted ||
    match request.archiveTermId with
    | some id => wanted == toString id
    | none => false

/-- Whether the page is the archive of a term: of a given taxonomy, of a given term. -/
def isTax
    (request : Request)
    (arguments : List Json) :
    Bool :=
  let taxonomy := argument arguments 0
  let term := argument arguments 1
  if request.archiveTaxonomy = .null then
    false
  else if !taxonomy.isUnset && request.archiveTaxonomy ≠ .str taxonomy.display then
    false
  else
    term.isUnset || isArchiveTerm request term

/-- The terms that the content has in one taxonomy, or in all. -/
def assignedTerms
    (request : Request)
    (taxonomy : Json) :
    List String :=
  if taxonomy.isUnset then
    request.terms.values.flatten
  else
    (request.terms.value? taxonomy.display).getD []

/-- Whether the content has a term: a given one, in a given taxonomy. -/
def hasTerm
    (request : Request)
    (arguments : List Json) :
    Bool :=
  let term := argument arguments 0
  let assigned := assignedTerms request (argument arguments 1)
  if request.postType = .null then
    false
  else if term.isUnset then
    !assigned.isEmpty
  else
    assigned.contains term.display

/-- A predicate of the vocabulary. -/
abbrev Word := Predicate Id Request

/-- A predicate without arguments. -/
def plain
    (name meaning : String)
    (ask : Request → Bool) :
    Word :=
  { name, arity := .nullary, ask := fun request _ => ask request, maxArgs := 1,
    meaning := some meaning }

/-- A predicate that asks for a flag of the route. -/
def flagged
    (name : String)
    (flag : RouteFlag)
    (meaning : String) :
    Word :=
  plain name meaning (Request.has flag)

/-- The predicates about who makes the request. -/
def aboutVisitor : List Word :=
  [ plain frontendName "Żądanie spoza panelu administracyjnego" Request.isFrontend,
    plain "is_admin" "Żądanie panelu administracyjnego" Request.isAdmin,
    plain "is_logged_out" "Użytkownik niezalogowany" fun request => !request.loggedIn,
    plain "is_user_logged_in" "Użytkownik zalogowany" Request.loggedIn,
    plain "is_mobile" "Urządzenie mobilne" Request.isMobile ]

/-- The predicates about the kind of page. -/
def aboutRoute : List Word :=
  [ flagged "is_home" .home "Strona z listą wpisów",
    flagged "is_front_page" .frontPage "Strona główna witryny",
    flagged "comments_open" .commentsOpen "Komentarze otwarte dla bieżącej treści",
    flagged "is_search" .search "Wyniki wyszukiwania",
    flagged "is_404" .notFound "Strona nie znaleziona",
    flagged "is_privacy_policy" .privacyPolicy "Strona polityki prywatności",
    flagged "is_paged" .paged "Kolejna strona paginacji",
    flagged "is_archive" .archive "Dowolne archiwum",
    flagged "is_woocommerce" .woocommerce "Strona WooCommerce",
    flagged "is_shop" .shop "Sklep WooCommerce",
    flagged "is_product_category" .productCategory "Archiwum kategorii produktu",
    flagged "is_product_tag" .productTag "Archiwum tagu produktu",
    flagged "is_product" .product "Strona produktu",
    flagged "is_cart" .cart "Koszyk",
    flagged "is_checkout" .checkout "Zamówienie",
    flagged "is_account_page" .accountPage "Strona konta klienta" ]

/-- The predicates with arguments. -/
def withArguments : List Word :=
  [ { name := "is_singular", arity := .unary, ask := isSingular, maxArgs := 1,
      meaning := some "Widok pojedynczej treści (opcjonalnie danego typu)" },
    { name := "is_page_template", arity := .unary, ask := isPageTemplate, maxArgs := 1,
      meaning := some "Strona używa szablonu (opcjonalnie danego pliku)" },
    { name := "is_wc_endpoint_url", arity := .unary, ask := isEndpoint, maxArgs := 1,
      meaning := some "Endpoint WooCommerce (opcjonalnie dany, np. orders)" },
    { name := "is_tax", arity := .variadic, ask := isTax, maxArgs := 2,
      meaning := some "Archiwum termu taksonomii (taxonomy, term)" },
    { name := "has_term", arity := .variadic, ask := hasTerm, maxArgs := 2,
      meaning := some "Treść ma przypisany term (term, taxonomy)" } ]

/-- All predicates. -/
def words : List Word :=
  aboutVisitor ++ aboutRoute ++ withArguments

/-- The registry of the vocabulary; it takes no more predicates. -/
def registry : Registry Id Request :=
  { entries := words.map fun word => (word.name, word), frozen := true }

end Vocabulary

end PageScripts
