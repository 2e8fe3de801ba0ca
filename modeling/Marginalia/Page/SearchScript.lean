/-!
The script that searches a site in the browser.
-/

namespace Marginalia.Page

/-- The lines of the script. It loads the search index once, ranks the entries at every keystroke
and lets the arrow keys move through the hits. -/
def searchScriptLines : List String := [
  "// Folio documentation search",
  "(function() \x7b",
  "    'use strict';",
  "",
  "    const MAX_HITS = 20;",
  "    const root = document.body.dataset.root || '';",
  "    let entries = null;",
  "    let selected = -1;",
  "",
  "    function load() \x7b",
  "        if (entries !== null) return Promise.resolve(entries);",
  "        return fetch(root + 'search-index.json')",
  "            .then(response => response.json())",
  "            .then(data => (entries = data))",
  "            .catch(err => \x7b",
  "                console.warn('folio: no search index', err);",
  "                return (entries = []);",
  "            \x7d);",
  "    \x7d",
  "",
  "    // Lower is better; Infinity when a word is missing.",
  "    function wordScore(word, text) \x7b",
  "        const at = text.indexOf(word);",
  "        if (at < 0) return Infinity;",
  "        if (at === 0) return text.length === word.length ? 0 : 1;",
  "        return /[\\s\\/._-]/.test(text[at - 1]) ? 2 : 3;",
  "    \x7d",
  "",
  "    function rank(words, entry) \x7b",
  "        const name = entry.n.toLowerCase();",
  "        const path = entry.p.toLowerCase();",
  "        let total = entry.k === 'file' ? 0 : 0.5;",
  "        for (const word of words) \x7b",
  "            const best = Math.min(wordScore(word, name), wordScore(word, path) + 4);",
  "            if (best === Infinity) return Infinity;",
  "            total += best;",
  "        \x7d",
  "        return total;",
  "    \x7d",
  "",
  "    function escape(text) \x7b",
  "        const span = document.createElement('span');",
  "        span.textContent = text;",
  "        return span.innerHTML;",
  "    \x7d",
  "",
  "    function render(list, hits) \x7b",
  "        selected = -1;",
  "        if (hits.length === 0) \x7b",
  "            list.innerHTML = '<li class=\"miss\">Nothing matches</li>';",
  "        \x7d else \x7b",
  "            list.innerHTML = hits.map(hit =>",
  "                '<li><a href=\"' + root + hit.l + '\">' +",
  "                '<span class=\"hit-name\">' + escape(hit.n) + '</span>' +",
  "                '<span class=\"hit-kind ' + hit.k + '\">' + hit.k + '</span>' +",
  "                '<span class=\"hit-where\">' + escape(hit.k === 'file' ? hit.p : hit.d) + '</span>' +",
  "                '</a></li>').join('');",
  "        \x7d",
  "        list.hidden = false;",
  "    \x7d",
  "",
  "    function query(input, list) \x7b",
  "        const words = input.value.toLowerCase().split(/\\s+/).filter(Boolean);",
  "        if (words.length === 0) \x7b",
  "            list.hidden = true;",
  "            return;",
  "        \x7d",
  "        load().then(all => \x7b",
  "            const hits = all",
  "                .map(entry => (\x7b entry, score: rank(words, entry) \x7d))",
  "                .filter(hit => hit.score !== Infinity)",
  "                .sort((a, b) => a.score - b.score)",
  "                .slice(0, MAX_HITS)",
  "                .map(hit => hit.entry);",
  "            render(list, hits);",
  "        \x7d);",
  "    \x7d",
  "",
  "    function move(list, step) \x7b",
  "        const links = list.querySelectorAll('a');",
  "        if (links.length === 0) return;",
  "        selected = (selected + step + links.length) % links.length;",
  "        links.forEach((link, i) => link.classList.toggle('selected', i === selected));",
  "        links[selected].scrollIntoView(\x7b block: 'nearest' \x7d);",
  "    \x7d",
  "",
  "    function init() \x7b",
  "        const input = document.getElementById('search-input');",
  "        const list = document.getElementById('search-results');",
  "        if (!input || !list) return;",
  "",
  "        let pending;",
  "        input.addEventListener('input', () => \x7b",
  "            clearTimeout(pending);",
  "            pending = setTimeout(() => query(input, list), 100);",
  "        \x7d);",
  "        input.addEventListener('focus', load, \x7b once: true \x7d);",
  "        input.addEventListener('keydown', event => \x7b",
  "            switch (event.key) \x7b",
  "                case 'ArrowDown': move(list, 1); break;",
  "                case 'ArrowUp': move(list, -1); break;",
  "                case 'Enter': \x7b",
  "                    const link = list.querySelectorAll('a')[Math.max(selected, 0)];",
  "                    if (link) window.location.href = link.href;",
  "                    break;",
  "                \x7d",
  "                case 'Escape':",
  "                    input.value = '';",
  "                    list.hidden = true;",
  "                    input.blur();",
  "                    break;",
  "                default: return;",
  "            \x7d",
  "            event.preventDefault();",
  "        \x7d);",
  "        document.addEventListener('keydown', event => \x7b",
  "            if (event.key === '/' && document.activeElement !== input) \x7b",
  "                event.preventDefault();",
  "                input.focus();",
  "            \x7d",
  "        \x7d);",
  "        document.addEventListener('click', event => \x7b",
  "            if (!event.target.closest('.finder')) list.hidden = true;",
  "        \x7d);",
  "    \x7d",
  "",
  "    if (document.readyState === 'loading') \x7b",
  "        document.addEventListener('DOMContentLoaded', init);",
  "    \x7d else \x7b",
  "        init();",
  "    \x7d",
  "\x7d)();"]

/-- The script. -/
def searchScript : String :=
  String.join (searchScriptLines.map (· ++ "\n"))

end Marginalia.Page
