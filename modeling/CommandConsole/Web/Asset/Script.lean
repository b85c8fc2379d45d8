/-!
# The script of the console page

What the page does in the browser: the login with its captcha, the menu, the choice about cookies, the
run button and the output panel. Every request that needs a session carries its token.
-/

namespace CommandConsole.Web.Asset

/-- The script, line by line. -/
def scriptLines : List String := [
  "(() => \x7b",
  "  const $ = (id) => document.getElementById(id);",
  "  const HEADER = 'x-cysim-session';",
  "  const skipCaptcha = new URLSearchParams(location.search).get('skipCaptcha') === 'true';",
  "",
  "  let token = null;",
  "  let challengeId = null;",
  "  let solved = skipCaptcha;",
  "",
  "  async function api(method, path, body) \x7b",
  "    const headers = \x7b 'content-type': 'application/json' \x7d;",
  "    if (token) headers[HEADER] = token;",
  "    const res = await fetch(path, \x7b method, headers, body: body ? JSON.stringify(body) : undefined \x7d);",
  "    const data = res.status === 204 ? null : await res.json();",
  "    if (!res.ok) throw Object.assign(new Error(data && data.error), \x7b status: res.status \x7d);",
  "    return data;",
  "  \x7d",
  "",
  "  function show(el, visible) \x7b el.classList.toggle('hidden', !visible); \x7d",
  "",
  "  function setChallenge(view) \x7b",
  "    challengeId = view.id;",
  "    $('captchaQuestion').textContent = view.question;",
  "    $('captchaInput').value = '';",
  "    $('verifyCaptcha').disabled = true;",
  "  \x7d",
  "",
  "  async function showLogin() \x7b",
  "    show($('login'), true);",
  "    show($('simulator'), false);",
  "    show($('sandwich-menu'), false);",
  "    show($('menu'), false);",
  "    show($('cookieConsent'), false);",
  "    solved = skipCaptcha;",
  "    $('loginButton').disabled = !solved;",
  "    show($('captcha'), !skipCaptcha);",
  "    show($('captchaError'), false);",
  "    if (!skipCaptcha) setChallenge(await api('GET', '/api/captcha'));",
  "  \x7d",
  "",
  "  function showSimulator(status) \x7b",
  "    show($('login'), false);",
  "    show($('simulator'), true);",
  "    show($('sandwich-menu'), true);",
  "    $('codeInput').value = '';",
  "    $('outputArea').innerHTML = '';",
  "    $('runButton').disabled = true;",
  "    const stored = localStorage.getItem('cookieConsent');",
  "    if (stored && status.show_consent_banner) \x7b",
  "      api('POST', '/api/consent', \x7b choice: stored \x7d).catch(() => \x7b\x7d);",
  "      show($('cookieConsent'), false);",
  "    \x7d else \x7b",
  "      show($('cookieConsent'), status.show_consent_banner);",
  "    \x7d",
  "  \x7d",
  "",
  "  $('captchaInput').addEventListener('input', (e) => \x7b",
  "    $('verifyCaptcha').disabled = e.target.value.trim() === '';",
  "  \x7d);",
  "",
  "  $('verifyCaptcha').addEventListener('click', async () => \x7b",
  "    const res = await api('POST', '/api/captcha/verify', \x7b id: challengeId, answer: $('captchaInput').value \x7d);",
  "    if (res.valid) \x7b",
  "      solved = true;",
  "      show($('captchaError'), false);",
  "      show($('captcha'), false);",
  "      $('loginButton').disabled = false;",
  "    \x7d else \x7b",
  "      show($('captchaError'), true);",
  "      setChallenge(res.next);",
  "    \x7d",
  "  \x7d);",
  "",
  "  $('loginButton').addEventListener('click', async () => \x7b",
  "    const query = skipCaptcha ? '?skipCaptcha=true' : '';",
  "    const res = await api('POST', '/api/session/login' + query, \x7b captcha_id: challengeId \x7d);",
  "    token = res.token;",
  "    showSimulator(res.status);",
  "  \x7d);",
  "",
  "  $('sandwich-menu').addEventListener('click', () => \x7b",
  "    $('menu').classList.toggle('hidden');",
  "  \x7d);",
  "",
  "  $('logoutButton').addEventListener('click', async () => \x7b",
  "    await api('POST', '/api/session/logout').catch(() => \x7b\x7d);",
  "    token = null;",
  "    $('codeInput').value = '';",
  "    $('outputArea').innerHTML = '';",
  "    await showLogin();",
  "  \x7d);",
  "",
  "  document.querySelectorAll('#cookieConsent button').forEach((button) => \x7b",
  "    button.addEventListener('click', async () => \x7b",
  "      const choice = button.dataset.choice;",
  "      localStorage.setItem('cookieConsent', choice);",
  "      await api('POST', '/api/consent', \x7b choice \x7d);",
  "      show($('cookieConsent'), false);",
  "    \x7d);",
  "  \x7d);",
  "",
  "  $('codeInput').addEventListener('input', (e) => \x7b",
  "    $('runButton').disabled = e.target.value.trim() === '';",
  "  \x7d);",
  "",
  "  $('runButton').addEventListener('click', async () => \x7b",
  "    const output = $('outputArea');",
  "    const input = $('codeInput').value;",
  "    const runToken = token;",
  "    $('runButton').disabled = true;",
  "    output.innerHTML = '<span class=\"loading\">Running... Please wait.</span>';",
  "    try \x7b",
  "      const res = await api('POST', '/api/run', \x7b input \x7d);",
  "      if (token !== runToken) return;",
  "      output.innerHTML = res.html;",
  "    \x7d catch (err) \x7b",
  "      // a run from an earlier login must not touch the current page",
  "      if (token !== runToken) return;",
  "      if (err.status !== 410) output.textContent = err.message;",
  "      else output.innerHTML = '';",
  "    \x7d",
  "    $('runButton').disabled = $('codeInput').value.trim() === '';",
  "  \x7d);",
  "",
  "  document.querySelector('.expand-collapse').addEventListener('click', async () => \x7b",
  "    const \x7b panel \x7d = await api('POST', '/api/panel/toggle');",
  "    const expanded = panel === 'expanded';",
  "    $('outputArea').classList.toggle('expanded', expanded);",
  "    $('outputArea').classList.toggle('collapsed', !expanded);",
  "    show($('expandIcon'), !expanded);",
  "    show($('collapseIcon'), expanded);",
  "  \x7d);",
  "",
  "  showLogin();",
  "\x7d)();"]

end CommandConsole.Web.Asset
